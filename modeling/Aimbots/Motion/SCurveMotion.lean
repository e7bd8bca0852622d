import Aimbots.Library.Trapezoid
import Aimbots.Motion.SCurveMotionProfile

/-!
# The motion of an S-curve profile

The acceleration of the profile is a trapezoid in each half, and velocity and distance are its
integrals.  `stepAtTime` misses that in two places.  Where slowing down begins it shows the step
after the last phase of speeding up, which has the velocity for its distance and no velocity; and
while it slows down the jerk has the wrong sign, since time and acceleration are both turned around.
`stepAtTime_motion` says that this is all it misses.
-/

namespace Aimbots.Motion

open Trapezoid
open scoped Numerals

namespace SCurveAcceleration

variable (c : Constraints)

/-- The acceleration that the profile should have, for all times. -/
noncomputable def idealAcceleration (t : ℝ) : ℝ :=
  c.jerk * trapezoid 1 (t1 c) (t1 c + t2 c) t

/-- The velocity. -/
noncomputable def idealVelocity (t : ℝ) : ℝ := c.jerk * trapezoid 2 (t1 c) (t1 c + t2 c) t / 2

/-- The distance. -/
noncomputable def idealDist (t : ℝ) : ℝ := c.jerk * trapezoid 3 (t1 c) (t1 c + t2 c) t / 6

theorem hasDerivAt_idealDist (t : ℝ) : HasDerivAt (idealDist c) (idealVelocity c t) t := by
  refine (((hasDerivAt_trapezoid 1 _ _ t).const_mul c.jerk).div_const 6).congr_deriv ?_
  rw [idealVelocity]
  push_cast
  ring

theorem hasDerivAt_idealVelocity (t : ℝ) :
    HasDerivAt (idealVelocity c) (idealAcceleration c t) t := by
  refine (((hasDerivAt_trapezoid 0 _ _ t).const_mul c.jerk).div_const 2).congr_deriv ?_
  rw [idealAcceleration]
  push_cast
  ring

theorem totalTime_eq : totalTime c = t1 c + (t1 c + t2 c) := by
  rw [totalTime, t3]
  ring

variable {c} (h : c.Feasible)
include h

/-- **Up to the end of the third phase the steps are those of the ideal motion.** -/
theorem stepAtT_ideal {t : ℝ} (ht : t < totalTime c) :
    (stepAtT c t).dist = idealDist c t ∧ (stepAtT c t).velocity = idealVelocity c t ∧
      (stepAtT c t).acceleration = idealAcceleration c t := by
  have ht1 := t1_pos h.positive
  have ht2 := t2_nonneg h
  have hb : 0 ≤ t1 c + t2 c := by linarith
  have hab : t1 c ≤ t1 c + t2 c := by linarith
  have hJ := jerk_mul_t1 h.positive
  rw [totalTime_eq] at ht
  unfold idealDist idealVelocity idealAcceleration stepAtT
  split_ifs with h₀ h₁ h₂ h₃
  · simp [trapezoid_of_nonpos, ht1.le, hb, h₀]
  · have h₀' : 0 ≤ t := (not_le.1 h₀).le
    rw [trapezoid_of_le_left three_ne_zero hb hab h₀' h₁.le,
      trapezoid_of_le_left two_ne_zero hb hab h₀' h₁.le,
      trapezoid_of_le_left one_ne_zero hb hab h₀' h₁.le, jerkUpStep]
    refine ⟨?_, ?_, ?_⟩ <;> ring
  · have hlow : t1 c ≤ t := not_lt.1 h₁
    have hhigh : t ≤ t1 c + t2 c := by linarith
    rw [trapezoid_of_mem three_ne_zero ht1.le hlow hhigh,
      trapezoid_of_mem two_ne_zero ht1.le hlow hhigh,
      trapezoid_of_mem one_ne_zero ht1.le hlow hhigh, constantStep, d1_eq h.positive,
        v1_eq h.positive, ← hJ]
    refine ⟨?_, ?_, ?_⟩ <;> ring
  · have hlow : t1 c + t2 c ≤ t := by linarith [not_lt.1 h₂]
    rw [trapezoid_of_right_le three_ne_zero ht1.le hab hlow ht.le,
      trapezoid_of_right_le two_ne_zero ht1.le hab hlow ht.le,
      trapezoid_of_right_le one_ne_zero ht1.le hab hlow ht.le, jerkDownStep, d1_eq h.positive, d2,
        v1_eq h.positive,
      v2_eq h.positive, ← hJ]
    refine ⟨?_, ?_, ?_⟩ <;> ring
  · rw [t3] at h₃
    linarith [not_lt.1 h₃]

/-- After the third phase the ideal motion goes on with its velocity. -/
theorem ideal_of_ge {t : ℝ} (ht : totalTime c ≤ t) :
    idealDist c t = totalDisplacement c + c.velocity * (t - totalTime c) ∧
      idealVelocity c t = c.velocity ∧ idealAcceleration c t = 0 := by
  have ht1 := t1_pos h.positive
  have ht2 := t2_nonneg h
  have hb : 0 ≤ t1 c + t2 c := by linarith
  rw [totalDisplacement_eq h.positive, velocity_eq h.positive, ← jerk_mul_t1 h.positive]
  rw [totalTime_eq] at ht ⊢
  unfold idealDist idealVelocity idealAcceleration
  rw [trapezoid_of_ge ht1.le hb ht, trapezoid_of_ge ht1.le hb ht, trapezoid_of_ge ht1.le hb ht]
  refine ⟨?_, ?_, ?_⟩ <;> ring

theorem idealVelocity_nonneg (t : ℝ) : 0 ≤ idealVelocity c t := by
  have ht1 := t1_pos h.positive
  have ht2 := t2_nonneg h
  exact div_nonneg (mul_nonneg h.jerk_pos.le (trapezoid_two_nonneg ht1.le (by linarith)))
    two_pos.le

/-- Between the phases' ends the jerk of a step is the derivative of the ideal acceleration. -/
theorem hasDerivAt_idealAcceleration {t : ℝ} (h₀ : 0 < t) (ht : t < totalTime c) (ha : t ≠ t1 c)
    (hb : t ≠ t1 c + t2 c) : HasDerivAt (idealAcceleration c) (stepAtT c t).jerk t := by
  have ht1 := t1_pos h.positive
  have ht2 := t2_nonneg h
  rw [totalTime_eq] at ht
  refine ((hasDerivAt_trapezoid_one h₀.ne' ha hb ht.ne).const_mul c.jerk).congr_deriv ?_
  rw [if_pos h₀, if_neg (not_lt.2 ht.le), stepAtT, if_neg (not_le.2 h₀)]
  rcases lt_or_gt_of_ne ha with ha | ha
  · rw [if_neg (by linarith), if_neg (by linarith), if_pos ha, jerkUpStep]
    ring
  rcases lt_or_gt_of_ne hb with hb | hb
  · rw [if_pos ha, if_neg (by linarith), if_neg (by linarith), if_pos (by linarith), constantStep]
    ring
  · rw [if_pos ha, if_pos hb, if_neg (by linarith), if_neg (by linarith),
      if_pos (by rw [t3]; linarith), jerkDownStep]
    ring

/-- The ideal motion cruises without a jerk. -/
theorem hasDerivAt_idealAcceleration_of_gt {t : ℝ} (ht : totalTime c < t) :
    HasDerivAt (idealAcceleration c) 0 t := by
  refine (hasDerivAt_const t (0 : ℝ)).congr_of_eventuallyEq ?_
  filter_upwards [Ioi_mem_nhds ht] with y hy
  exact (ideal_of_ge h (le_of_lt hy)).2.2

end SCurveAcceleration

namespace SCurveMotionProfile

open SCurveAcceleration (t1 t2 t3 idealDist idealVelocity idealAcceleration)

variable (p : SCurveMotionProfile)

/-- When slowing down begins. -/
noncomputable def brakeTime : ℝ := p.accelerationTime + p.cruiseTime

/-- The phases of constant jerk, from when to when. -/
noncomputable def phases : List (ℝ × ℝ) :=
  [(0, t1 p.usedConstraints),
    (t1 p.usedConstraints, t1 p.usedConstraints + t2 p.usedConstraints),
    (t1 p.usedConstraints + t2 p.usedConstraints, p.accelerationTime),
    (p.accelerationTime, p.brakeTime),
    (p.brakeTime, p.brakeTime + t3 p.usedConstraints),
    (p.brakeTime + t3 p.usedConstraints,
      p.brakeTime + t3 p.usedConstraints + t2 p.usedConstraints),
    (p.brakeTime + t3 p.usedConstraints + t2 p.usedConstraints, p.totalTime)]

/-- What makes steps over the time of a profile a motion: the distance goes from 0 to the
displacement without a jump or a way back, and each member of a step is the derivative of the one
before. -/
structure IsMotion (step : ℝ → Step) : Prop where
  continuousOn : ContinuousOn (fun t => (step t).dist) (Set.Icc 0 p.totalTime)
  monotoneOn : MonotoneOn (fun t => (step t).dist) (Set.Icc 0 p.totalTime)
  start : (step 0).dist = 0
  finish : (step p.totalTime).dist = p.displacement
  velocity : ∀ t ∈ Set.Icc 0 p.totalTime,
    HasDerivWithinAt (fun t => (step t).dist) (step t).velocity (Set.Icc 0 p.totalTime) t
  acceleration : ∀ t ∈ Set.Icc 0 p.totalTime,
    HasDerivWithinAt (fun t => (step t).velocity) (step t).acceleration (Set.Icc 0 p.totalTime) t
  jerk : ∀ phase ∈ p.phases, ∀ t ∈ Set.Ioo phase.1 phase.2,
    HasDerivAt (fun t => (step t).acceleration) (step t).jerk t

/-- The steps of `stepAtTime`, but for the one where slowing down begins and the sign of the jerk
after that. -/
noncomputable def repairedStep (t : ℝ) : Step :=
  if t < p.brakeTime then p.stepAtTime t
  else if t = p.brakeTime then
    { dist := p.accelerationDisplacement + p.cruiseDisplacement
      velocity := p.usedConstraints.velocity }
  else { p.stepAtTime t with jerk := -(p.stepAtTime t).jerk }

theorem totalTime_eq : p.totalTime = p.brakeTime + p.accelerationTime := by
  rw [totalTime, brakeTime]
  ring

theorem displacement_eq :
    p.displacement = p.accelerationDisplacement * 2 + p.cruiseDisplacement := by
  rw [cruiseDisplacement]
  ring

section Feasible

variable {p} (h : p.Feasible) {t : ℝ}
include h

theorem accelerationTime_le_brakeTime : p.accelerationTime ≤ p.brakeTime :=
  le_add_of_nonneg_right (cruiseTime_nonneg h)

/-- **Before slowing down the steps are those of the ideal motion.** -/
theorem stepAtTime_of_lt (ht : t < p.brakeTime) :
    (p.stepAtTime t).dist = idealDist p.usedConstraints t ∧
      (p.stepAtTime t).velocity = idealVelocity p.usedConstraints t ∧
      (p.stepAtTime t).acceleration = idealAcceleration p.usedConstraints t := by
  rw [brakeTime] at ht
  rw [stepAtTime]
  split_ifs with h₁ h₂
  · exact SCurveAcceleration.stepAtT_ideal h.used h₁
  · have hle : p.accelerationTime ≤ t := not_lt.1 h₁
    have hcruise : 0 < p.cruiseTime := by linarith
    have hused : p.usedConstraints = p.constraints := by
      rcases used_cases h with ⟨hused, -⟩ | hnone
      · exact hused
      · rw [cruiseTime, hnone, zero_div] at hcruise
        exact absurd hcruise (lt_irrefl 0)
    obtain ⟨hdist, hvelocity, hacceleration⟩ := SCurveAcceleration.ideal_of_ge h.used hle
    refine ⟨?_, ?_, hacceleration.symm⟩
    · rw [hdist, ← hused]
      rfl
    · rw [hvelocity, ← hused]
  · linarith

/-- **While slowing down they are those of the ideal motion turned around**, but for the jerk, which
is that of speeding up. -/
theorem stepAtTime_of_gt (ht : p.brakeTime < t) :
    (p.stepAtTime t).dist = p.displacement - idealDist p.usedConstraints (p.totalTime - t) ∧
      (p.stepAtTime t).velocity = idealVelocity p.usedConstraints (p.totalTime - t) ∧
      (p.stepAtTime t).acceleration = -idealAcceleration p.usedConstraints (p.totalTime - t) ∧
      (p.stepAtTime t).jerk =
        -(SCurveAcceleration.stepAtT p.usedConstraints (p.totalTime - t)).jerk := by
  have hle := accelerationTime_le_brakeTime h
  have hback : p.accelerationTime - (t - p.accelerationTime - p.cruiseTime) = p.totalTime - t := by
    rw [totalTime]
    ring
  have hlt : p.totalTime - t < SCurveAcceleration.totalTime p.usedConstraints := by
    rw [totalTime_eq, accelerationTime]
    linarith
  obtain ⟨hdist, hvelocity, hacceleration⟩ := SCurveAcceleration.stepAtT_ideal h.used hlt
  have hcruise := cruiseTime_nonneg h
  rw [brakeTime] at ht
  rw [stepAtTime, if_neg (by linarith), if_neg (by linarith), hback, mirror]
  refine ⟨?_, hvelocity, ?_, mul_neg_one _⟩
  · rw [← hdist, displacement_eq]
    ring
  · rw [← hacceleration, mul_neg_one]

/-- The step where slowing down begins: no velocity, and a distance that is short by it. -/
theorem stepAtTime_brakeTime :
    p.stepAtTime p.brakeTime =
      ⟨p.accelerationDisplacement + p.cruiseDisplacement +
        (p.accelerationDisplacement - p.usedConstraints.velocity), 0, 0, 0⟩ := by
  have hback : p.accelerationTime - (p.brakeTime - p.accelerationTime - p.cruiseTime) =
      p.accelerationTime := by
    rw [brakeTime]
    ring
  have hle := accelerationTime_le_brakeTime h
  have hfinal : SCurveAcceleration.stepAtT p.usedConstraints p.accelerationTime =
      ⟨p.usedConstraints.velocity, 0, 0, 0⟩ := SCurveAcceleration.stepAtT_final h.used le_rfl
  rw [stepAtTime, if_neg (by linarith), if_neg (by rw [brakeTime]; linarith), hback, hfinal, mirror]
  simp

/-- The repaired steps before slowing down and where that begins. -/
theorem repairedStep_of_le (ht : t ≤ p.brakeTime) :
    (p.repairedStep t).dist = idealDist p.usedConstraints t ∧
      (p.repairedStep t).velocity = idealVelocity p.usedConstraints t ∧
      (p.repairedStep t).acceleration = idealAcceleration p.usedConstraints t := by
  rcases ht.lt_or_eq with hlt | rfl
  · rw [repairedStep, if_pos hlt]
    exact stepAtTime_of_lt h hlt
  · obtain ⟨hdist, hvelocity, hacceleration⟩ :=
      SCurveAcceleration.ideal_of_ge h.used (accelerationTime_le_brakeTime h)
    have hcruise : p.usedConstraints.velocity * (p.brakeTime - p.accelerationTime) =
        p.cruiseDisplacement := by
      rw [brakeTime, add_sub_cancel_left, cruiseTime, mul_div_cancel₀ _ h.used.velocity_pos.ne']
    rw [repairedStep, if_neg (lt_irrefl _), if_pos rfl]
    refine ⟨?_, hvelocity.symm, hacceleration.symm⟩
    rw [hdist, ← hcruise]
    rfl

/-- The repaired steps where slowing down begins and after that. -/
theorem repairedStep_of_ge (ht : p.brakeTime ≤ t) :
    (p.repairedStep t).dist = p.displacement - idealDist p.usedConstraints (p.totalTime - t) ∧
      (p.repairedStep t).velocity = idealVelocity p.usedConstraints (p.totalTime - t) ∧
      (p.repairedStep t).acceleration =
        -idealAcceleration p.usedConstraints (p.totalTime - t) := by
  rcases ht.lt_or_eq with hlt | rfl
  · obtain ⟨hdist, hvelocity, hacceleration, -⟩ := stepAtTime_of_gt h hlt
    rw [repairedStep, if_neg (not_lt.2 hlt.le), if_neg hlt.ne']
    exact ⟨hdist, hvelocity, hacceleration⟩
  · have hrest : p.totalTime - p.brakeTime = SCurveAcceleration.totalTime p.usedConstraints := by
      rw [totalTime_eq, add_sub_cancel_left]
      rfl
    obtain ⟨hdist, hvelocity, hacceleration⟩ := SCurveAcceleration.ideal_of_ge h.used le_rfl
    rw [repairedStep, if_neg (lt_irrefl _), if_pos rfl, hrest, hdist, hvelocity, hacceleration,
      sub_self, mul_zero, add_zero, displacement_eq, accelerationDisplacement]
    refine ⟨by ring, rfl, by ring⟩

theorem hasDerivAt_repairedStep_dist (t : ℝ) :
    HasDerivAt (fun t => (p.repairedStep t).dist) (p.repairedStep t).velocity t := by
  refine hasDerivAt_join _ (fun t => (p.repairedStep t).velocity) _ _
    (fun t => p.displacement - idealDist p.usedConstraints (p.totalTime - t))
    (fun t => idealVelocity p.usedConstraints (p.totalTime - t)) p.brakeTime
    (SCurveAcceleration.hasDerivAt_idealDist p.usedConstraints) (fun x => ?_)
    (fun x hx => ?_) (fun x hx => ?_) t
  · have hcomp := (SCurveAcceleration.hasDerivAt_idealDist p.usedConstraints
      (p.totalTime - x)).comp x ((hasDerivAt_id x).const_sub p.totalTime)
    refine (hcomp.const_sub p.displacement).congr_deriv ?_
    ring
  · exact ⟨(repairedStep_of_le h hx).1, (repairedStep_of_le h hx).2.1⟩
  · exact ⟨(repairedStep_of_ge h hx).1, (repairedStep_of_ge h hx).2.1⟩

theorem hasDerivAt_repairedStep_velocity (t : ℝ) :
    HasDerivAt (fun t => (p.repairedStep t).velocity) (p.repairedStep t).acceleration t := by
  refine hasDerivAt_join _ (fun t => (p.repairedStep t).acceleration) _ _
    (fun t => idealVelocity p.usedConstraints (p.totalTime - t))
    (fun t => -idealAcceleration p.usedConstraints (p.totalTime - t)) p.brakeTime
    (SCurveAcceleration.hasDerivAt_idealVelocity p.usedConstraints) (fun x => ?_)
    (fun x hx => ?_) (fun x hx => ?_) t
  · have hcomp := (SCurveAcceleration.hasDerivAt_idealVelocity p.usedConstraints
      (p.totalTime - x)).comp x ((hasDerivAt_id x).const_sub p.totalTime)
    refine hcomp.congr_deriv ?_
    ring
  · exact (repairedStep_of_le h hx).2
  · exact (repairedStep_of_ge h hx).2

/-- Before slowing down the jerk of a step is the derivative of the acceleration. -/
theorem hasDerivAt_acceleration_of_lt (h₀ : 0 < t) (ht : t < p.brakeTime)
    (h₁ : t ≠ t1 p.usedConstraints) (h₂ : t ≠ t1 p.usedConstraints + t2 p.usedConstraints)
    (h₃ : t ≠ p.accelerationTime) :
    HasDerivAt (fun t => (p.stepAtTime t).acceleration) (p.stepAtTime t).jerk t := by
  have hideal : HasDerivAt (idealAcceleration p.usedConstraints) (p.stepAtTime t).jerk t := by
    rcases lt_or_gt_of_ne h₃ with h₃ | h₃
    · rw [stepAtTime, if_pos h₃]
      exact SCurveAcceleration.hasDerivAt_idealAcceleration h.used h₀ h₃ h₁ h₂
    · rw [brakeTime] at ht
      rw [stepAtTime, if_neg (not_lt.2 h₃.le), if_pos (by linarith)]
      exact SCurveAcceleration.hasDerivAt_idealAcceleration_of_gt h.used h₃
  refine hideal.congr_of_eventuallyEq ?_
  filter_upwards [Iio_mem_nhds ht] with y hy
  exact (stepAtTime_of_lt h hy).2.2

/-- While slowing down it is the derivative with the sign changed. -/
theorem hasDerivAt_acceleration_of_gt (hbrake : p.brakeTime < t) (ht : t < p.totalTime)
    (h₁ : t ≠ p.brakeTime + t3 p.usedConstraints + t2 p.usedConstraints)
    (h₂ : t ≠ p.brakeTime + t3 p.usedConstraints) :
    HasDerivAt (fun t => (p.stepAtTime t).acceleration) (-(p.stepAtTime t).jerk) t := by
  have htotal : p.totalTime = p.brakeTime + (t1 p.usedConstraints +
      (t1 p.usedConstraints + t2 p.usedConstraints)) := by
    rw [totalTime_eq, accelerationTime, SCurveAcceleration.totalTime_eq]
  have hrest : p.totalTime - t < SCurveAcceleration.totalTime p.usedConstraints := by
    rw [htotal, SCurveAcceleration.totalTime_eq]
    linarith
  rw [t3] at h₁ h₂
  have hideal := SCurveAcceleration.hasDerivAt_idealAcceleration h.used (sub_pos.2 ht) hrest
    (fun heq => h₁ (by linarith)) (fun heq => h₂ (by linarith))
  obtain ⟨-, -, -, hjerk⟩ := stepAtTime_of_gt h hbrake
  have hcomp := (hideal.comp t ((hasDerivAt_id t).const_sub p.totalTime)).neg
  rw [mul_neg_one, neg_neg] at hcomp
  rw [hjerk, neg_neg]
  refine hcomp.congr_of_eventuallyEq ?_
  filter_upwards [Ioi_mem_nhds hbrake] with y hy
  exact (stepAtTime_of_gt h hy).2.2.1

omit h in
theorem repairedStep_of_lt (ht : t < p.brakeTime) : p.repairedStep t = p.stepAtTime t := if_pos ht

omit h in
theorem repairedStep_of_gt (ht : p.brakeTime < t) :
    p.repairedStep t = { p.stepAtTime t with jerk := -(p.stepAtTime t).jerk } := by
  rw [repairedStep, if_neg (not_lt.2 ht.le), if_neg ht.ne']

theorem hasDerivAt_repairedStep_of_lt (h₀ : 0 < t) (ht : t < p.brakeTime)
    (h₁ : t ≠ t1 p.usedConstraints) (h₂ : t ≠ t1 p.usedConstraints + t2 p.usedConstraints)
    (h₃ : t ≠ p.accelerationTime) :
    HasDerivAt (fun t => (p.repairedStep t).acceleration) (p.repairedStep t).jerk t := by
  rw [repairedStep_of_lt ht]
  refine (hasDerivAt_acceleration_of_lt h h₀ ht h₁ h₂ h₃).congr_of_eventuallyEq ?_
  filter_upwards [Iio_mem_nhds ht] with y hy
  rw [repairedStep_of_lt hy]

theorem hasDerivAt_repairedStep_of_gt (hbrake : p.brakeTime < t) (ht : t < p.totalTime)
    (h₁ : t ≠ p.brakeTime + t3 p.usedConstraints + t2 p.usedConstraints)
    (h₂ : t ≠ p.brakeTime + t3 p.usedConstraints) :
    HasDerivAt (fun t => (p.repairedStep t).acceleration) (p.repairedStep t).jerk t := by
  rw [repairedStep_of_gt hbrake]
  refine (hasDerivAt_acceleration_of_gt h hbrake ht h₁ h₂).congr_of_eventuallyEq ?_
  filter_upwards [Ioi_mem_nhds hbrake] with y hy
  rw [repairedStep_of_gt hy]

/-- In each phase the jerk of the repaired steps is the derivative of their acceleration. -/
theorem hasDerivAt_repairedStep_acceleration {phase : ℝ × ℝ} (hphase : phase ∈ p.phases)
    (ht : t ∈ Set.Ioo phase.1 phase.2) :
    HasDerivAt (fun t => (p.repairedStep t).acceleration) (p.repairedStep t).jerk t := by
  have ht1 := SCurveAcceleration.t1_pos h.used.positive
  have ht2 := SCurveAcceleration.t2_nonneg h.used
  have ht3 : t3 p.usedConstraints = t1 p.usedConstraints := rfl
  have htime : p.accelerationTime = t1 p.usedConstraints +
      (t1 p.usedConstraints + t2 p.usedConstraints) := SCurveAcceleration.totalTime_eq _
  have hle := accelerationTime_le_brakeTime h
  have htotal := p.totalTime_eq
  have hbefore := hasDerivAt_repairedStep_of_lt h (t := t)
  have hafter := hasDerivAt_repairedStep_of_gt h (t := t)
  obtain ⟨hlow, hhigh⟩ := ht
  simp only [phases, List.mem_cons, List.not_mem_nil, or_false] at hphase
  -- A time inside one phase is at no phase's end.
  rcases hphase with rfl | rfl | rfl | rfl | rfl | rfl | rfl <;> dsimp only at hlow hhigh
  · exact hbefore hlow (by linarith) hhigh.ne (by linarith) (by linarith)
  · exact hbefore (by linarith) (by linarith) hlow.ne' hhigh.ne (by linarith)
  · exact hbefore (by linarith) (by linarith) (by linarith) hlow.ne' hhigh.ne
  · exact hbefore (by linarith) hhigh (by linarith) (by linarith) hlow.ne'
  · exact hafter hlow (by linarith) (by linarith) hhigh.ne
  · exact hafter (by linarith) (by linarith) hhigh.ne hlow.ne'
  · exact hafter (by linarith) hhigh hlow.ne' (by linarith)

theorem repairedStep_velocity_nonneg (t : ℝ) : 0 ≤ (p.repairedStep t).velocity := by
  rcases le_total t p.brakeTime with ht | ht
  · rw [(repairedStep_of_le h ht).2.1]
    exact SCurveAcceleration.idealVelocity_nonneg h.used t
  · rw [(repairedStep_of_ge h ht).2.1]
    exact SCurveAcceleration.idealVelocity_nonneg h.used _

theorem accelerationTime_pos : 0 < p.accelerationTime := SCurveAcceleration.totalTime_pos h.used

theorem idealDist_zero : idealDist p.usedConstraints 0 = 0 := by
  have hzero := SCurveAcceleration.stepAtT_ideal h.used (accelerationTime_pos h)
  rw [← hzero.1, SCurveAcceleration.stepAtT, if_pos le_rfl]

/-- **The repaired steps are a motion.** -/
theorem isMotion_repairedStep : p.IsMotion p.repairedStep where
  continuousOn t _ := (hasDerivAt_repairedStep_dist h t).continuousAt.continuousWithinAt
  monotoneOn := (monotone_of_hasDerivAt_nonneg (hasDerivAt_repairedStep_dist h)
    (repairedStep_velocity_nonneg h)).monotoneOn _
  start := by
    have hpos := accelerationTime_pos h
    rw [(repairedStep_of_le h (by linarith [accelerationTime_le_brakeTime h])).1,
      idealDist_zero h]
  finish := by
    have hpos := accelerationTime_pos h
    rw [(repairedStep_of_ge h (by linarith [p.totalTime_eq])).1, sub_self, idealDist_zero h,
      sub_zero]
  velocity t _ := (hasDerivAt_repairedStep_dist h t).hasDerivWithinAt
  acceleration t _ := (hasDerivAt_repairedStep_velocity h t).hasDerivWithinAt
  jerk _ hphase _ ht := hasDerivAt_repairedStep_acceleration h hphase ht

/-- In the last phase the jerk of `stepAtTime` is not the derivative of the acceleration. -/
theorem not_isMotion_stepAtTime : ¬ p.IsMotion p.stepAtTime := by
  intro hmotion
  have ht1 := SCurveAcceleration.t1_pos h.used.positive
  have htime : p.accelerationTime = t1 p.usedConstraints +
      (t1 p.usedConstraints + t2 p.usedConstraints) := SCurveAcceleration.totalTime_eq _
  have htotal := p.totalTime_eq
  have ht2 := SCurveAcceleration.t2_nonneg h.used
  have ht3 : t3 p.usedConstraints = t1 p.usedConstraints := rfl
  -- In the middle of the last phase the acceleration goes up to 0.
  have hrest : p.totalTime - (p.totalTime - t1 p.usedConstraints / 2) =
    t1 p.usedConstraints / 2 := by ring
  have hgt : p.brakeTime < p.totalTime - t1 p.usedConstraints / 2 := by linarith
  have hshown := hmotion.jerk _ (by simp [phases] : (p.brakeTime + t3 p.usedConstraints +
      t2 p.usedConstraints, p.totalTime) ∈ p.phases) (p.totalTime - t1 p.usedConstraints / 2)
    ⟨by dsimp only; linarith, by dsimp only; linarith⟩
  have hderiv := hasDerivAt_acceleration_of_gt h hgt (by linarith) (by linarith) (by linarith)
  have hjerk : (p.stepAtTime (p.totalTime - t1 p.usedConstraints / 2)).jerk =
      -p.usedConstraints.jerk := by
    rw [(stepAtTime_of_gt h hgt).2.2.2, hrest, SCurveAcceleration.stepAtT, if_neg (by linarith),
      if_pos (by linarith), SCurveAcceleration.jerkUpStep]
  have hsign := hshown.unique hderiv
  rw [hjerk] at hsign
  linarith [h.used.jerk_pos]

end Feasible

/-- **What the steps of a profile are**: never a motion, but a motion once the step where slowing
down begins and the sign of the jerk after that are repaired. -/
theorem stepAtTime_motion (p : SCurveMotionProfile) (h : p.Feasible) :
    ¬ p.IsMotion p.stepAtTime ∧ p.IsMotion p.repairedStep :=
  ⟨not_isMotion_stepAtTime h, isMotion_repairedStep h⟩

theorem stepAtTime_motion_straight :
    ¬ straight.IsMotion straight.stepAtTime ∧ straight.IsMotion straight.repairedStep :=
  stepAtTime_motion straight straight_feasible

theorem straight_accelerationTime : straight.accelerationTime = 3 := by
  rw [accelerationTime, straight_used, SCurveAcceleration.totalTime, SCurveAcceleration.t2,
    SCurveAcceleration.v2, t3, SCurveAcceleration.v1_eq straight_constraints.positive,
    SCurveAcceleration.t1_eq straight_constraints.positive]
  norm_num [straight]

theorem straight_brakeTime : straight.brakeTime = 15 := by
  rw [brakeTime, straight_accelerationTime, cruiseTime, cruiseDisplacement,
    accelerationDisplacement, straight_used, straight_totalDisplacement]
  norm_num [straight]

/-- The robot cruises up to 15 with velocity 2 and has come to 27 then; the step there says 28, and
that it stands still.  At the end the acceleration goes up from -1 to 0, and the jerk is shown as
-1. -/
theorem not_isMotion_straight :
    straight.stepAtTime 15 = ⟨28, 0, 0, 0⟩ ∧ (straight.stepAtTime (35 / 2)).jerk = -1 ∧
      ¬ straight.IsMotion straight.stepAtTime := by
  refine ⟨?_, ?_, not_isMotion_stepAtTime straight_feasible⟩
  · rw [← straight_brakeTime, stepAtTime_brakeTime straight_feasible, cruiseDisplacement,
      accelerationDisplacement, straight_used, straight_totalDisplacement]
    norm_num [straight]
  · have hrest : straight.totalTime - 35 / 2 = 1 / 2 := by
      rw [totalTime_eq, straight_brakeTime, straight_accelerationTime]
      norm_num
    have ht1 : t1 straight.usedConstraints = 1 := by
      rw [straight_used, SCurveAcceleration.t1_eq straight_constraints.positive]
      norm_num [straight]
    have hgt : straight.brakeTime < 35 / 2 := by
      rw [straight_brakeTime]
      norm_num
    rw [(stepAtTime_of_gt straight_feasible hgt).2.2.2, hrest, SCurveAcceleration.stepAtT,
      if_neg (by norm_num), if_pos (by rw [ht1]; norm_num), SCurveAcceleration.jerkUpStep,
      straight_used]
    rfl

end SCurveMotionProfile

end Aimbots.Motion
