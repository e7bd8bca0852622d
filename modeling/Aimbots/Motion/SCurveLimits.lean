import Aimbots.Motion.SCurveMotion
import Mathlib.Tactic.Positivity

/-!
# The limits and the end of `SCurveAcceleration`

The constructor takes any constraints.  If the velocity is too small for the largest acceleration to
be reached, the time at that acceleration comes out negative, and if it is smaller than the velocity
at which jerking up ends, jerking up goes past it (`stepAtT_within_iff`, `limited_iff`).

And no constraints make the profile end where it should (`not_arrives`).
-/

namespace Aimbots.Motion

open scoped Numerals

/-- The step keeps to the limits that the constraints place on the derivatives. -/
structure Step.Within (s : Step) (c : Constraints) : Prop where
  velocity_nonneg : 0 ≤ s.velocity
  velocity_le : s.velocity ≤ c.velocity
  acceleration_nonneg : 0 ≤ s.acceleration
  acceleration_le : s.acceleration ≤ c.acceleration
  abs_jerk_le : |s.jerk| ≤ c.jerk

namespace SCurveAcceleration

/-- The profile keeps to its constraints at all times, and no phase takes a negative time. -/
structure Limited (c : Constraints) : Prop where
  within : ∀ t, (stepAtT c t).Within c
  t1_nonneg : 0 ≤ t1 c
  t2_nonneg : 0 ≤ t2 c
  t3_nonneg : 0 ≤ t3 c

/-! ### The limits -/

section Limits

variable {c : Constraints} (h : c.Positive)
include h

theorem v1_eq_div : v1 c = c.acceleration ^ 2 / (2 * c.jerk) := by
  have hJ := h.jerk_pos.ne'
  rw [v1_eq h, t1_eq h]
  field_simp

theorem rest_within (dist : ℝ) : (⟨dist, 0, 0, 0⟩ : Step).Within c where
  velocity_nonneg := le_rfl
  velocity_le := h.velocity_pos.le
  acceleration_nonneg := le_rfl
  acceleration_le := h.acceleration_pos.le
  abs_jerk_le := abs_zero.trans_le h.jerk_pos.le

theorem jerkUpStep_within (hv : v1 c ≤ c.velocity) {t : ℝ} (ht : 0 ≤ t) (ht' : t ≤ t1 c) :
    (jerkUpStep c t).Within c := by
  have hJ := h.jerk_pos
  have hacc : c.jerk * t ≤ c.acceleration := by
    rw [← jerk_mul_t1 h]
    exact mul_le_mul_of_nonneg_left ht' hJ.le
  constructor
  · exact div_nonneg (mul_nonneg hJ.le (mul_nonneg ht ht)) two_pos.le
  · -- the velocity is largest at the end of the phase
    have hend : c.jerk * (t * t) ≤ c.acceleration * t1 c := by
      rw [← mul_assoc]
      exact mul_le_mul hacc ht' ht h.acceleration_pos.le
    rw [v1_eq h] at hv
    simp only [jerkUpStep]
    linarith
  · exact mul_nonneg hJ.le ht
  · exact hacc
  · exact (abs_of_pos hJ).le

theorem constantStep_within {t : ℝ} (ht : 0 ≤ t) (ht' : t ≤ t2 c) :
    (constantStep c t).Within c := by
  have hA := h.acceleration_pos
  have hv1 := v1_pos h
  have hup : c.acceleration * t ≤ c.acceleration * t2 c := mul_le_mul_of_nonneg_left ht' hA.le
  constructor
  · exact add_nonneg hv1.le (mul_nonneg hA.le ht)
  · have hV := velocity_eq h
    have hv := v1_eq h
    simp only [constantStep]
    linarith
  · exact hA.le
  · exact le_rfl
  · exact abs_zero.trans_le h.jerk_pos.le

theorem jerkDownStep_within (hv : v1 c ≤ c.velocity) {t : ℝ} (ht : 0 ≤ t) (ht' : t ≤ t3 c) :
    (jerkDownStep c t).Within c := by
  have hJ := h.jerk_pos
  rw [t3] at ht'
  -- the velocity that is still missing, by the time that is left
  have hmissing : (jerkDownStep c t).velocity =
      c.velocity - c.jerk * ((t1 c - t) * (t1 c - t)) / 2 := by
    rw [jerkDownStep, v2_eq h, velocity_eq h, ← jerk_mul_t1 h]
    ring
  have hacc : (jerkDownStep c t).acceleration = c.jerk * (t1 c - t) := by
    rw [jerkDownStep, ← jerk_mul_t1 h]
    ring
  have hleft : 0 ≤ t1 c - t := sub_nonneg.2 ht'
  constructor
  · have hmost : (t1 c - t) * (t1 c - t) ≤ t1 c * t1 c :=
      mul_le_mul (by linarith) (by linarith) hleft (by linarith)
    have hmul := mul_le_mul_of_nonneg_left hmost hJ.le
    rw [v1_eq h, ← jerk_mul_t1 h, mul_assoc] at hv
    rw [hmissing]
    linarith
  · have hpos : 0 ≤ c.jerk * ((t1 c - t) * (t1 c - t)) := by positivity
    rw [hmissing]
    linarith
  · rw [hacc]
    exact mul_nonneg hJ.le hleft
  · rw [hacc, ← jerk_mul_t1 h]
    exact mul_le_mul_of_nonneg_left (by linarith) hJ.le
  · exact (abs_neg _).trans_le (abs_of_pos hJ).le

/-- Jerking up to an acceleration that takes more than the velocity goes past the velocity. -/
theorem exists_velocity_lt (hv : c.velocity < v1 c) :
    ∃ t, 0 < t ∧ t < t1 c ∧ c.velocity < (jerkUpStep c t).velocity := by
  have hV := h.velocity_pos
  have hJ := h.jerk_pos
  have ht1 := t1_pos h
  have hv1 := v1_pos h
  -- halfway between the velocity and that at the end of jerking up
  obtain ⟨t, ht, hsq⟩ : ∃ t : ℝ, 0 < t ∧ t * t = (c.velocity + v1 c) / c.jerk :=
    ⟨√((c.velocity + v1 c) / c.jerk), Real.sqrt_pos.2 (by positivity),
      Real.mul_self_sqrt (by positivity)⟩
  have hJt : c.jerk * (t * t) = c.velocity + v1 c := by
    rw [hsq]
    exact mul_div_cancel₀ _ hJ.ne'
  refine ⟨t, ht, ?_, ?_⟩
  · refine lt_of_mul_self_lt_mul_self₀ ht1.le (lt_of_mul_lt_mul_left ?_ hJ.le)
    have hend : c.jerk * (t1 c * t1 c) = 2 * v1 c := by
      rw [v1_eq h, ← jerk_mul_t1 h]
      ring
    linarith
  · simp only [jerkUpStep]
    linarith

/-- **The steps keep to the limits** if and only if the largest acceleration, jerked up to and down
from, does not take more than the velocity. -/
theorem stepAtT_within_iff :
    (∀ t, (stepAtT c t).Within c) ↔ c.acceleration ^ 2 / (2 * c.jerk) ≤ c.velocity := by
  rw [← v1_eq_div h]
  constructor
  · intro hall
    by_contra hv
    obtain ⟨t, ht, htlt, hpast⟩ := exists_velocity_lt h (not_le.1 hv)
    have hle := (hall t).velocity_le
    rw [stepAtT, if_neg (not_le.2 ht), if_pos htlt] at hle
    exact hle.not_gt hpast
  · intro hv t
    rw [stepAtT]
    split_ifs with h₀ h₁ h₂ h₃
    · exact rest_within h _
    · exact jerkUpStep_within h hv (not_le.1 h₀).le h₁.le
    · exact constantStep_within h (by linarith) h₂.le
    · exact jerkDownStep_within h hv (by linarith) h₃.le
    · exact rest_within h _

end Limits

/-- **The profile is within its limits if and only if they leave time to reach the largest
acceleration.** -/
theorem limited_iff {c : Constraints} (h : c.Positive) :
    Limited c ↔ c.acceleration ^ 2 / c.jerk ≤ c.velocity := by
  constructor
  · intro hlim
    exact (t2_nonneg_iff h).1 hlim.t2_nonneg
  · intro hle
    have ht1 := t1_pos h
    have hhalf : c.acceleration ^ 2 / (2 * c.jerk) ≤ c.acceleration ^ 2 / c.jerk := by
      rw [mul_comm, ← div_div]
      have hJ := h.jerk_pos
      exact half_le_self (by positivity)
    exact ⟨(stepAtT_within_iff h).2 (hhalf.trans hle), ht1.le, (t2_nonneg_iff h).2 hle, ht1.le⟩

/-- Constraints of a velocity of one that ask for an acceleration of two. -/
theorem limited_iff_hasty : Limited ⟨1, 2, 1⟩ ↔ (2 : ℝ) ^ 2 / 1 ≤ 1 :=
  limited_iff ⟨one_pos, two_pos, one_pos⟩

/-- There the second phase takes a negative time, and the first goes on past the velocity. -/
theorem not_limited_hasty :
    (⟨1, 2, 1⟩ : Constraints).Positive ∧ t2 ⟨1, 2, 1⟩ < 0 ∧
      ¬ (stepAtT ⟨1, 2, 1⟩ 1.5).velocity ≤ 1 ∧ ¬ Limited ⟨1, 2, 1⟩ := by
  have ht2 : t2 ⟨1, 2, 1⟩ < 0 := by norm_num [t2, v2, v1, t1]
  have hvel : ¬ (stepAtT ⟨1, 2, 1⟩ 1.5).velocity ≤ 1 := by norm_num [stepAtT, t1, jerkUpStep]
  exact ⟨⟨one_pos, two_pos, one_pos⟩, ht2, hvel, fun hlim => hvel (hlim.within 1.5).velocity_le⟩

/-! ### The end -/

/-- The step is at the end of the profile: at the velocity that it speeds up to, and not short of
the displacement. -/
structure Arrived (c : Constraints) (s : Step) : Prop where
  velocity : s.velocity = c.velocity
  acceleration : s.acceleration = 0
  le_dist : totalDisplacement c ≤ s.dist

/-- The profile ends where it should: without a jump in distance or velocity, and with all steps
from then on at its end. -/
structure Arrives (c : Constraints) : Prop where
  continuous_dist : Continuous fun t => (stepAtT c t).dist
  continuous_velocity : Continuous fun t => (stepAtT c t).velocity
  stepAtT : ∀ t, totalTime c ≤ t → Arrived c (stepAtT c t)
  stepAtDisplacement : ∀ s, totalDisplacement c ≤ s → Arrived c (stepAtDisplacement c s)

/-- A function that follows a continuous one up to a point and stays where it is from there on. -/
theorem continuousAt_iff_of_lt {f g : ℝ → ℝ} {x : ℝ} (hg : ContinuousAt g x)
    (hlt : ∀ y < x, f y = g y) (hge : ∀ y, x ≤ y → f y = f x) : ContinuousAt f x ↔ f x = g x := by
  have hleft : Filter.Tendsto f (nhdsWithin x (Set.Iio x)) (nhds (g x)) :=
    (hg.mono_left nhdsWithin_le_nhds).congr' (eventually_nhdsWithin_of_forall fun y hy =>
      (hlt y hy).symm)
  constructor
  · intro hf
    exact tendsto_nhds_unique (hf.mono_left nhdsWithin_le_nhds) hleft
  · intro heq
    rw [continuousAt_iff_continuous_left'_right']
    constructor
    · rw [ContinuousWithinAt, heq]
      exact hleft
    · exact continuousWithinAt_const.congr (fun y hy => hge y (le_of_lt hy)) rfl

section End

variable {c : Constraints} (h : c.Feasible)
include h

theorem stepAtDisplacement_final {s : ℝ} (hs : totalDisplacement c ≤ s) :
    stepAtDisplacement c s = finalStep c := by
  rw [stepAtDisplacement_eq_stepAtT h, stepAtT_final h (timeAtDisplacement_final h hs).ge]

/-- Before and after the end nothing jumps. -/
theorem stepAtT_continuousAt {t : ℝ} (ht : t ≠ totalTime c) :
    ContinuousAt (fun t => (stepAtT c t).dist) t ∧
      ContinuousAt (fun t => (stepAtT c t).velocity) t := by
  rcases lt_or_gt_of_ne ht with ht | ht
  · have hnear := eventually_lt_nhds ht
    constructor
    · apply (hasDerivAt_idealDist c t).continuousAt.congr
      exact hnear.mono fun u hu => (stepAtT_ideal h hu).1.symm
    · apply (hasDerivAt_idealVelocity c t).continuousAt.congr
      exact hnear.mono fun u hu => (stepAtT_ideal h hu).2.1.symm
  · have hfinal : stepAtT c =ᶠ[nhds t] fun _ => finalStep c :=
      (eventually_gt_nhds ht).mono fun u hu => stepAtT_final h (le_of_lt hu)
    constructor
    · exact continuousAt_const.congr (hfinal.symm.fun_comp Step.dist)
    · exact continuousAt_const.congr (hfinal.symm.fun_comp Step.velocity)

/-- At the end the velocity jumps, since the motion was at the velocity to speed up to. -/
theorem not_continuousAt_velocity :
    ¬ ContinuousAt (fun t => (stepAtT c t).velocity) (totalTime c) := by
  rw [continuousAt_iff_of_lt (hasDerivAt_idealVelocity c _).continuousAt
    fun t ht => (stepAtT_ideal h ht).2.1]
  · rw [stepAtT_final h le_rfl, (ideal_of_ge h le_rfl).2.1]
    exact h.velocity_pos.ne
  · intro t ht
    simp only [stepAtT_final h ht, stepAtT_final h le_rfl]

/-- The distance jumps too, unless the velocity happens to be the displacement. -/
theorem continuousAt_dist_iff :
    ContinuousAt (fun t => (stepAtT c t).dist) (totalTime c) ↔
      c.velocity = totalDisplacement c := by
  rw [continuousAt_iff_of_lt (hasDerivAt_idealDist c _).continuousAt
    fun t ht => (stepAtT_ideal h ht).1]
  · rw [stepAtT_final h le_rfl, (ideal_of_ge h le_rfl).1, sub_self, mul_zero, add_zero, finalStep]
  · intro t ht
    simp only [stepAtT_final h ht, stepAtT_final h le_rfl]

/-- The step after the last phase is not at the end: it stands still. -/
theorem not_arrived_finalStep : ¬ Arrived c (finalStep c) :=
  fun harrived => h.velocity_pos.ne harrived.velocity

/-- **No constraints make the profile end where it should.** -/
theorem not_arrives : ¬ Arrives c := by
  intro harrives
  have harrived := harrives.stepAtT (totalTime c) le_rfl
  rw [stepAtT_final h le_rfl] at harrived
  exact not_arrived_finalStep h harrived

end End

theorem feasible_brisk : (⟨2, 1, 1⟩ : Constraints).Feasible :=
  ⟨two_pos, one_pos, one_pos, by norm_num⟩

theorem not_arrives_brisk : ¬ Arrives ⟨2, 1, 1⟩ := not_arrives feasible_brisk

/-- Three seconds and three metres to a velocity of two: the step at the end stands still at two. -/
theorem stands_still_brisk :
    totalTime ⟨2, 1, 1⟩ = 3 ∧ totalDisplacement ⟨2, 1, 1⟩ = 3 ∧
      stepAtT ⟨2, 1, 1⟩ 3 = ⟨2, 0, 0, 0⟩ ∧ stepAtDisplacement ⟨2, 1, 1⟩ 3 = ⟨2, 0, 0, 0⟩ ∧
      ¬ Arrives ⟨2, 1, 1⟩ := by
  have htime : totalTime ⟨2, 1, 1⟩ = 3 := by norm_num [totalTime, t1, t2, t3, v1, v2]
  have hdist : totalDisplacement ⟨2, 1, 1⟩ = 3 := by
    rw [totalDisplacement_eq feasible_brisk.positive, htime]
    norm_num
  refine ⟨htime, hdist, stepAtT_final feasible_brisk htime.le,
    stepAtDisplacement_final feasible_brisk hdist.le, fun harrives => ?_⟩
  have harrived := harrives.stepAtT 3 htime.le
  rw [stepAtT_final feasible_brisk htime.le] at harrived
  exact not_arrived_finalStep feasible_brisk harrived

end SCurveAcceleration

end Aimbots.Motion
