import Aimbots.Motion.SCurveAcceleration

/-!
# `s_curve_motion_profile.hpp`

A profile that covers a displacement: it speeds up with an `SCurveAcceleration`, cruises, and slows
down as it sped up.  If the displacement is too short for that, the constructor builds the profile
again with a velocity for which nothing is left to cruise.  It sets that velocity in its argument,
which has the name of the member: the member keeps the velocity that was asked for.
-/

namespace Aimbots.Motion

open scoped Numerals

/-- The arguments of the constructor of `SCurveMotionProfile`, which it keeps as members. -/
structure SCurveMotionProfile where
  constraints : Constraints
  displacement : ℝ

namespace SCurveMotionProfile

noncomputable section

variable (p : SCurveMotionProfile)

/-- `constrainVelocity`. -/
def constrainVelocity : ℝ :=
  (√|p.constraints.acceleration ^ 4 +
      4 * p.displacement * p.constraints.acceleration *
        (p.constraints.jerk * p.constraints.jerk)| -
    p.constraints.acceleration * p.constraints.acceleration) / (p.constraints.jerk * 2)

/-- The argument `constraints` at the end of the constructor, with which `accelerationProfile` is
built. -/
def usedConstraints : Constraints :=
  if SCurveAcceleration.totalDisplacement p.constraints * 2 > p.displacement then
    { p.constraints with velocity := p.constrainVelocity }
  else p.constraints

/-- `accelerationTime`. -/
def accelerationTime : ℝ := SCurveAcceleration.totalTime p.usedConstraints

/-- `accelerationDisplacement`. -/
def accelerationDisplacement : ℝ := SCurveAcceleration.totalDisplacement p.usedConstraints

/-- `cruiseDisplacement`. -/
def cruiseDisplacement : ℝ := p.displacement - p.accelerationDisplacement * 2

/-- `cruiseTime`. -/
def cruiseTime : ℝ := p.cruiseDisplacement / p.usedConstraints.velocity

/-- The step of slowing down that mirrors a step of speeding up. -/
def mirror (step : Step) : Step where
  dist :=
    p.accelerationDisplacement + p.cruiseDisplacement + (p.accelerationDisplacement - step.dist)
  velocity := step.velocity
  acceleration := step.acceleration * -1
  jerk := step.jerk * -1

/-- `stepAtTime`. -/
def stepAtTime (t : ℝ) : Step :=
  if t < p.accelerationTime then SCurveAcceleration.stepAtT p.usedConstraints t
  else if t - p.accelerationTime < p.cruiseTime then
    { dist := p.accelerationDisplacement + p.constraints.velocity * (t - p.accelerationTime)
      velocity := p.constraints.velocity }
  else
    p.mirror (SCurveAcceleration.stepAtT p.usedConstraints
      (p.accelerationTime - (t - p.accelerationTime - p.cruiseTime)))

/-- `stepAtDisplacement`. -/
def stepAtDisplacement (s : ℝ) : Step :=
  if s < p.accelerationDisplacement then
    SCurveAcceleration.stepAtDisplacement p.usedConstraints s
  else if s - p.accelerationDisplacement < p.cruiseDisplacement then
    { dist := p.accelerationDisplacement + (s - p.accelerationDisplacement)
      velocity := p.constraints.velocity }
  else
    p.mirror (SCurveAcceleration.stepAtDisplacement p.usedConstraints
      (p.accelerationDisplacement - (s - p.accelerationDisplacement - p.cruiseDisplacement)))

/-- `timeAtDisplacement`. -/
def timeAtDisplacement (s : ℝ) : ℝ :=
  if s < p.accelerationDisplacement then
    SCurveAcceleration.timeAtDisplacement p.usedConstraints s
  else if s - p.accelerationDisplacement < p.cruiseDisplacement then
    p.accelerationTime + (s - p.accelerationDisplacement) / p.constraints.velocity
  else
    p.accelerationTime + p.cruiseTime + p.accelerationTime -
      SCurveAcceleration.timeAtDisplacement p.usedConstraints
        (p.accelerationDisplacement - (s - p.accelerationDisplacement - p.cruiseDisplacement))

/-- `totalTime`. -/
def totalTime : ℝ := p.accelerationTime + p.accelerationTime + p.cruiseTime

end

/-- The constraints are feasible, also with the velocity that is used, and there is a way to go. -/
structure Feasible (p : SCurveMotionProfile) : Prop where
  constraints : p.constraints.Feasible
  displacement_pos : 0 < p.displacement
  used : p.usedConstraints.Feasible

/-! ### The velocity that is used -/

section Used

variable {p : SCurveMotionProfile}

/-- The velocity of a short displacement is the one that covers half of it. -/
theorem constrainVelocity_spec (h : p.constraints.Feasible) (hpos : 0 < p.displacement) :
    p.constraints.jerk * p.constrainVelocity ^ 2 +
        p.constraints.acceleration ^ 2 * p.constrainVelocity =
      p.displacement * p.constraints.acceleration * p.constraints.jerk := by
  have hA := h.acceleration_pos
  have hJ := h.jerk_pos
  have hroot : √|p.constraints.acceleration ^ 4 + 4 * p.displacement * p.constraints.acceleration *
        (p.constraints.jerk * p.constraints.jerk)| ^ 2 =
      p.constraints.acceleration ^ 4 + 4 * p.displacement * p.constraints.acceleration *
        (p.constraints.jerk * p.constraints.jerk) := by
    rw [Real.sq_sqrt (abs_nonneg _), abs_of_pos (by positivity)]
  rw [constrainVelocity]
  generalize √|p.constraints.acceleration ^ 4 + 4 * p.displacement * p.constraints.acceleration *
    (p.constraints.jerk * p.constraints.jerk)| = root at hroot ⊢
  field_simp
  linear_combination hroot

/-- **The profile either keeps the velocity that was asked for, or has nothing to cruise.** -/
theorem used_cases (h : p.Feasible) :
    p.usedConstraints = p.constraints ∧ 0 ≤ p.cruiseDisplacement ∨ p.cruiseDisplacement = 0 := by
  by_cases hshort : SCurveAcceleration.totalDisplacement p.constraints * 2 > p.displacement
  · have hused : p.usedConstraints = { p.constraints with velocity := p.constrainVelocity } :=
      if_pos hshort
    have hspec := constrainVelocity_spec h.constraints h.displacement_pos
    have hA := h.constraints.acceleration_pos.ne'
    have hJ := h.constraints.jerk_pos.ne'
    have hV := SCurveAcceleration.velocity_eq h.used.positive
    have ht1 := SCurveAcceleration.t1_eq h.used.positive
    refine Or.inr ?_
    rw [cruiseDisplacement, accelerationDisplacement,
      SCurveAcceleration.totalDisplacement_eq h.used.positive, SCurveAcceleration.totalTime,
      SCurveAcceleration.t3]
    have htime : SCurveAcceleration.t1 p.usedConstraints + SCurveAcceleration.t2 p.usedConstraints =
        p.usedConstraints.velocity / p.usedConstraints.acceleration := by
      rw [hV, mul_div_cancel_left₀ _ h.used.acceleration_pos.ne']
    rw [htime, ht1, hused]
    simp only
    field_simp
    linear_combination -hspec
  · have hused : p.usedConstraints = p.constraints := if_neg hshort
    refine Or.inl ⟨hused, ?_⟩
    rw [cruiseDisplacement, accelerationDisplacement, hused]
    linarith [not_lt.1 hshort]

theorem cruiseDisplacement_nonneg (h : p.Feasible) : 0 ≤ p.cruiseDisplacement := by
  rcases used_cases h with ⟨-, hcruise⟩ | hcruise
  · exact hcruise
  · exact hcruise.ge

theorem cruiseTime_nonneg (h : p.Feasible) : 0 ≤ p.cruiseTime :=
  div_nonneg (cruiseDisplacement_nonneg h) h.used.velocity_pos.le

/-- While there is something to cruise the velocity is the one that was asked for. -/
theorem velocity_of_cruise (h : p.Feasible) (hcruise : 0 < p.cruiseDisplacement) :
    p.usedConstraints = p.constraints := by
  rcases used_cases h with ⟨hused, -⟩ | hnone
  · exact hused
  · exact absurd hnone hcruise.ne'

/-! ### The time and the displacement -/

/-- **The step of the profile at a displacement** is the one at the time of that displacement. -/
theorem stepAtDisplacement_eq_stepAtTime (h : p.Feasible) (s : ℝ) :
    p.stepAtDisplacement s = p.stepAtTime (p.timeAtDisplacement s) := by
  have hcruise := cruiseTime_nonneg h
  rw [stepAtDisplacement, timeAtDisplacement]
  split_ifs with h₁ h₂
  · have htime : SCurveAcceleration.timeAtDisplacement p.usedConstraints s < p.accelerationTime :=
      SCurveAcceleration.timeAtDisplacement_lt h.used h₁
    rw [stepAtTime, if_pos htime, SCurveAcceleration.stepAtDisplacement_eq_stepAtT h.used]
  · have hs : 0 ≤ s - p.accelerationDisplacement := by linarith
    have hV := h.constraints.velocity_pos
    have hused := velocity_of_cruise h (hs.trans_lt h₂)
    have hlow : 0 ≤ (s - p.accelerationDisplacement) / p.constraints.velocity :=
      div_nonneg hs hV.le
    have hhigh : (s - p.accelerationDisplacement) / p.constraints.velocity < p.cruiseTime := by
      rw [cruiseTime, hused]
      exact div_lt_div_of_pos_right h₂ hV
    rw [stepAtTime, if_neg (by linarith), add_sub_cancel_left, if_pos hhigh,
      mul_div_cancel₀ _ hV.ne']
  · rw [SCurveAcceleration.stepAtDisplacement_eq_stepAtT h.used]
    generalize p.accelerationDisplacement -
      (s - p.accelerationDisplacement - p.cruiseDisplacement) = rest
    have hle : SCurveAcceleration.timeAtDisplacement p.usedConstraints rest ≤ p.accelerationTime :=
      SCurveAcceleration.timeAtDisplacement_le h.used rest
    have hback : p.accelerationTime - (p.accelerationTime + p.cruiseTime + p.accelerationTime -
          SCurveAcceleration.timeAtDisplacement p.usedConstraints rest - p.accelerationTime -
          p.cruiseTime) =
        SCurveAcceleration.timeAtDisplacement p.usedConstraints rest := by ring
    rw [stepAtTime, if_neg (by linarith), if_neg (by linarith), hback]

/-- The displacement is in a phase of constant jerk that speeds up, in one of constant acceleration,
in the cruise, or in the mirror image of one of the first two. -/
def Covered (p : SCurveMotionProfile) (s : ℝ) : Prop :=
  (0 ≤ s ∧ s < SCurveAcceleration.d1 p.usedConstraints + SCurveAcceleration.d2 p.usedConstraints) ∨
    (p.accelerationDisplacement ≤ s ∧ s < p.accelerationDisplacement + p.cruiseDisplacement) ∨
    (p.displacement - (SCurveAcceleration.d1 p.usedConstraints +
        SCurveAcceleration.d2 p.usedConstraints) < s ∧ s ≤ p.displacement)

/-- In these phases the step is at the displacement. -/
theorem stepAtDisplacement_dist_of_covered (h : p.Feasible) {s : ℝ} (hs : p.Covered s) :
    (p.stepAtDisplacement s).dist = s := by
  have hd3 := SCurveAcceleration.d3_pos h.used
  have hcruise := cruiseDisplacement_nonneg h
  have htotal : p.accelerationDisplacement = SCurveAcceleration.d1 p.usedConstraints +
    SCurveAcceleration.d2 p.usedConstraints + SCurveAcceleration.d3 p.usedConstraints := rfl
  have hdisplacement :
      p.displacement = p.accelerationDisplacement * 2 + p.cruiseDisplacement := by
    rw [cruiseDisplacement]
    ring
  rw [stepAtDisplacement]
  rcases hs with ⟨hlow, hhigh⟩ | ⟨hlow, hhigh⟩ | ⟨hlow, hhigh⟩
  · rw [if_pos (by linarith)]
    exact SCurveAcceleration.stepAtDisplacement_dist h.used hlow hhigh
  · rw [if_neg (by linarith), if_pos (by linarith)]
    exact add_sub_cancel _ _
  · rw [if_neg (by linarith), if_neg (by linarith), mirror,
      SCurveAcceleration.stepAtDisplacement_dist h.used (by linarith) (by linarith)]
    linarith

end Used

/-- **The time and the displacement parametrisation agree**, of the acceleration and of the whole
profile, and where a phase is inverted exactly the step is at the displacement. -/
theorem parametrisations_agree :
    (∀ c : Constraints, c.Feasible → ∀ s,
      SCurveAcceleration.stepAtDisplacement c s =
          SCurveAcceleration.stepAtT c (SCurveAcceleration.timeAtDisplacement c s) ∧
        (0 ≤ s → s < SCurveAcceleration.d1 c + SCurveAcceleration.d2 c →
          (SCurveAcceleration.stepAtDisplacement c s).dist = s)) ∧
      ∀ p : SCurveMotionProfile, p.Feasible → ∀ s,
        p.stepAtDisplacement s = p.stepAtTime (p.timeAtDisplacement s) ∧
          (p.Covered s → (p.stepAtDisplacement s).dist = s) :=
  ⟨fun _ hc s => ⟨SCurveAcceleration.stepAtDisplacement_eq_stepAtT hc s,
      SCurveAcceleration.stepAtDisplacement_dist hc⟩,
    fun _ hp s => ⟨stepAtDisplacement_eq_stepAtTime hp s, stepAtDisplacement_dist_of_covered hp⟩⟩

/-- A displacement of 30 with velocity 2, acceleration 1 and jerk 1. -/
def straight : SCurveMotionProfile := ⟨⟨2, 1, 1⟩, 30⟩

theorem straight_constraints : straight.constraints.Feasible := by
  constructor <;> norm_num [straight]

theorem straight_totalDisplacement :
    SCurveAcceleration.totalDisplacement straight.constraints = 3 := by
  rw [SCurveAcceleration.totalDisplacement_eq straight_constraints.positive,
    SCurveAcceleration.totalTime,
    SCurveAcceleration.t2, SCurveAcceleration.v2, SCurveAcceleration.t3,
    SCurveAcceleration.v1_eq straight_constraints.positive,
      SCurveAcceleration.t1_eq straight_constraints.positive]
  norm_num [straight]

theorem straight_used : straight.usedConstraints = straight.constraints := by
  rw [usedConstraints, straight_totalDisplacement, if_neg]
  norm_num [straight]

theorem straight_feasible : straight.Feasible where
  constraints := straight_constraints
  displacement_pos := by norm_num [straight]
  used := straight_used ▸ straight_constraints

theorem parametrisations_agree_straight :
    (SCurveAcceleration.stepAtDisplacement ⟨2, 1, 1⟩ 1 = SCurveAcceleration.stepAtT ⟨2, 1, 1⟩
      (SCurveAcceleration.timeAtDisplacement ⟨2, 1, 1⟩ 1)) ∧
      straight.stepAtDisplacement 5 = straight.stepAtTime (straight.timeAtDisplacement 5) ∧
      (straight.stepAtDisplacement 5).dist = 5 := by
  have hcovered : straight.Covered 5 := by
    refine Or.inr (Or.inl ?_)
    rw [cruiseDisplacement, accelerationDisplacement, straight_used, straight_totalDisplacement]
    norm_num [straight]
  exact ⟨(parametrisations_agree.1 ⟨2, 1, 1⟩ straight_constraints 1).1,
    (parametrisations_agree.2 straight straight_feasible 5).1,
    (parametrisations_agree.2 straight straight_feasible 5).2 hcovered⟩

end SCurveMotionProfile

end Aimbots.Motion
