import Aimbots.Library.MonotoneInverse

/-!
# `s_curve_acceleration.hpp`

A profile that speeds up from rest in three phases: a constant jerk up to the largest acceleration,
that acceleration, and the jerk down to none.  It is asked for a step by the time or by the
displacement.  Numbers are real; the members that the constructor computes are functions of the
constraints.
-/

namespace Aimbots.Motion

open MonotoneInverse
open scoped Numerals

/-- `SCurveAcceleration::Step`, with the arguments of its constructor in their order. -/
@[ext] structure Step where
  dist : ℝ := 0
  velocity : ℝ := 0
  acceleration : ℝ := 0
  jerk : ℝ := 0

/-- `SCurveAcceleration::Constraints`. -/
structure Constraints where
  velocity : ℝ
  acceleration : ℝ
  jerk : ℝ

/-- The constraints are positive and leave time to reach the largest acceleration. -/
structure Constraints.Feasible (c : Constraints) : Prop where
  velocity_pos : 0 < c.velocity
  acceleration_pos : 0 < c.acceleration
  jerk_pos : 0 < c.jerk
  le_velocity : c.acceleration ^ 2 / c.jerk ≤ c.velocity

/-- The constraints are positive. -/
structure Constraints.Positive (c : Constraints) : Prop where
  velocity_pos : 0 < c.velocity
  acceleration_pos : 0 < c.acceleration
  jerk_pos : 0 < c.jerk

theorem Constraints.Feasible.positive {c : Constraints} (h : c.Feasible) : c.Positive :=
  ⟨h.velocity_pos, h.acceleration_pos, h.jerk_pos⟩

namespace SCurveAcceleration

noncomputable section

variable (c : Constraints)

/-- `t1`: the time to jerk up to the largest acceleration. -/
def t1 : ℝ := if c.jerk ≤ 0 then 0 else c.acceleration / c.jerk

/-- `v1`: the velocity at the end of that. -/
def v1 : ℝ := if c.jerk ≤ 0 then 0 else c.jerk * (t1 c * t1 c) / 2

/-- `d1`: the displacement from that. -/
def d1 : ℝ := if c.jerk ≤ 0 then 0 else c.jerk * (t1 c * t1 c * t1 c) / 6

/-- `v2`: the velocity at the end of the constant acceleration. -/
def v2 : ℝ := c.velocity - v1 c

/-- `t2`: the time of the constant acceleration. -/
def t2 : ℝ := (v2 c - v1 c) / c.acceleration

/-- `d2`: the displacement from the constant acceleration. -/
def d2 : ℝ := v1 c * t2 c + c.acceleration * (t2 c * t2 c) / 2

/-- `t3`: the time to jerk down. -/
def t3 : ℝ := t1 c

/-- `d3`: the displacement from that. -/
def d3 : ℝ :=
  v2 c * t3 c + c.acceleration * (t3 c * t3 c) / 2 - c.jerk * (t3 c * t3 c * t3 c) / 6

/-- `t3Mid`. -/
def t3Mid : ℝ := t3 c / 2

/-- `d3Mid`. -/
def d3Mid : ℝ :=
  -c.jerk * (t3Mid c * t3Mid c * t3Mid c) / 6 + c.acceleration * (t3Mid c * t3Mid c) / 2 +
    v2 c * t3Mid c

/-- `distInterpA`. -/
def distInterpA : ℝ := (d3 c * t3Mid c - d3Mid c * t3 c) / (d3Mid c * d3 c * (d3Mid c - d3 c))

/-- `distInterpB`. -/
def distInterpB : ℝ :=
  (d3Mid c * d3Mid c * t3 c - d3 c * d3 c * t3Mid c) / (d3Mid c * d3 c * (d3Mid c - d3 c))

/-- `totalTime`. -/
def totalTime : ℝ := t1 c + t2 c + t3 c

/-- `totalDisplacement`. -/
def totalDisplacement : ℝ := d1 c + d2 c + d3 c

/-- The step of the first phase, `t` after it began. -/
def jerkUpStep (t : ℝ) : Step :=
  ⟨c.jerk * (t * t * t) / 6, c.jerk * (t * t) / 2, c.jerk * t, c.jerk⟩

/-- The step of the second phase. -/
def constantStep (t : ℝ) : Step :=
  ⟨d1 c + v1 c * t + c.acceleration * (t * t) / 2, v1 c + c.acceleration * t, c.acceleration, 0⟩

/-- The step of the third phase. -/
def jerkDownStep (t : ℝ) : Step :=
  ⟨d1 c + d2 c - c.jerk * (t * t * t) / 6 + c.acceleration * (t * t) / 2 + v2 c * t,
    v2 c + c.acceleration * t - c.jerk * (t * t) / 2, c.acceleration - c.jerk * t, -c.jerk⟩

/-- The step after the last phase.  Its distance is the velocity, and its velocity is 0: the
constructor of a step takes the distance first. -/
def finalStep : Step := ⟨c.velocity, 0, 0, 0⟩

/-- `stepAtT`. -/
def stepAtT (t : ℝ) : Step :=
  if t ≤ 0 then ⟨0, 0, 0, 0⟩
  else if t < t1 c then jerkUpStep c t
  else if t - t1 c < t2 c then constantStep c (t - t1 c)
  else if t - t1 c - t2 c < t3 c then jerkDownStep c (t - t1 c - t2 c)
  else finalStep c

/-- The time in the first phase at which a displacement is reached. -/
def jerkUpTime (displacement : ℝ) : ℝ := cbrt (displacement * 6 / c.jerk)

/-- The time in the second phase. -/
def constantTime (displacement : ℝ) : ℝ :=
  (-v1 c + √(v1 c * v1 c - 4 * c.acceleration / 2 * -displacement)) / c.acceleration

/-- The time in the third phase, interpolated. -/
def jerkDownTime (displacement : ℝ) : ℝ :=
  distInterpA c * (displacement * displacement) + distInterpB c * displacement

/-- `timeAtDisplacement`. -/
def timeAtDisplacement (displacement : ℝ) : ℝ :=
  if displacement < d1 c then jerkUpTime c displacement
  else if displacement - d1 c < d2 c then constantTime c (displacement - d1 c) + t1 c
  else if displacement - d1 c - d2 c < d3 c then
    jerkDownTime c (displacement - d1 c - d2 c) + t1 c + t2 c
  else t1 c + t2 c + t3 c

/-- `stepAtDisplacement`. -/
def stepAtDisplacement (displacement : ℝ) : Step :=
  if displacement ≤ 0 then {}
  else if displacement < d1 c then jerkUpStep c (jerkUpTime c displacement)
  else if displacement - d1 c < d2 c then
    constantStep c (constantTime c (displacement - d1 c))
  else if displacement - d1 c - d2 c < d3 c then
    jerkDownStep c (jerkDownTime c (displacement - d1 c - d2 c))
  else finalStep c

end

/-! ### The members in terms of the times of the phases -/

section Positive

variable {c : Constraints} (h : c.Positive)
include h

theorem t1_eq : t1 c = c.acceleration / c.jerk := if_neg (not_le.2 h.jerk_pos)

theorem t1_pos : 0 < t1 c := by
  rw [t1_eq h]
  exact div_pos h.acceleration_pos h.jerk_pos

theorem jerk_mul_t1 : c.jerk * t1 c = c.acceleration := by
  rw [t1_eq h, mul_div_cancel₀ _ h.jerk_pos.ne']

theorem v1_eq : v1 c = c.acceleration * t1 c / 2 := by
  rw [v1, if_neg (not_le.2 h.jerk_pos), ← mul_assoc, jerk_mul_t1 h]

theorem d1_eq : d1 c = c.acceleration * t1 c ^ 2 / 6 := by
  rw [d1, if_neg (not_le.2 h.jerk_pos), ← jerk_mul_t1 h]
  ring

/-- The velocity is that of the largest acceleration over the first two phases. -/
theorem velocity_eq : c.velocity = c.acceleration * (t1 c + t2 c) := by
  have hA := h.acceleration_pos.ne'
  rw [t2, v2, v1_eq h]
  field_simp
  ring

/-- There is time left at the largest acceleration if that is reached before the velocity is. -/
theorem t2_nonneg_iff : 0 ≤ t2 c ↔ c.acceleration ^ 2 / c.jerk ≤ c.velocity := by
  have hpeak : c.acceleration ^ 2 / c.jerk = c.acceleration * t1 c := by
    rw [t1_eq h]
    ring
  rw [hpeak, velocity_eq h, mul_le_mul_iff_right₀ h.acceleration_pos, le_add_iff_nonneg_right]

theorem v2_eq : v2 c = c.acceleration * (t1 c / 2 + t2 c) := by
  rw [v2, v1_eq h, velocity_eq h]
  ring

theorem v1_pos : 0 < v1 c := by
  rw [v1_eq h]
  exact div_pos (mul_pos h.acceleration_pos (t1_pos h)) two_pos

theorem d1_pos : 0 < d1 c := by
  rw [d1_eq h]
  exact div_pos (mul_pos h.acceleration_pos (pow_pos (t1_pos h) 2)) (by norm_num)

theorem d3_eq : d3 c = v2 c * t1 c + c.acceleration * t1 c ^ 2 / 3 := by
  rw [d3, t3, ← jerk_mul_t1 h]
  ring

theorem d3Mid_eq : d3Mid c = v2 c * t1 c / 2 + 5 * c.acceleration * t1 c ^ 2 / 48 := by
  rw [d3Mid, t3Mid, t3, ← jerk_mul_t1 h]
  ring

/-- The profile covers what half of its velocity would. -/
theorem totalDisplacement_eq : totalDisplacement c = c.velocity * totalTime c / 2 := by
  rw [totalDisplacement, totalTime, d1_eq h, d2, d3_eq h, v1_eq h, v2_eq h, t3, velocity_eq h]
  ring

end Positive

section Members

variable {c : Constraints} (h : c.Feasible)
include h

theorem t2_nonneg : 0 ≤ t2 c := (t2_nonneg_iff h.positive).2 h.le_velocity

theorem v2_pos : 0 < v2 c := by
  rw [v2_eq h.positive]
  exact mul_pos h.acceleration_pos (by linarith [t1_pos h.positive, t2_nonneg h])

theorem totalTime_pos : 0 < totalTime c := by
  have := t1_pos h.positive
  have := t2_nonneg h
  rw [totalTime, t3]
  linarith

/-! ### The inverse of each phase -/

theorem jerkUpTime_lt {s : ℝ} (hs : s < d1 c) : jerkUpTime c s < t1 c := by
  rw [jerkUpTime, cbrt_lt_iff, div_lt_iff₀ h.jerk_pos]
  have hd : t1 c ^ 3 * c.jerk = d1 c * 6 := by
    rw [d1_eq h.positive, ← jerk_mul_t1 h.positive]
    ring
  linarith

theorem jerkUpTime_nonpos {s : ℝ} (hs : s ≤ 0) : jerkUpTime c s ≤ 0 :=
  cbrt_nonpos (div_nonpos_of_nonpos_of_nonneg (by linarith) h.jerk_pos.le)

theorem jerkUpTime_pos {s : ℝ} (hs : 0 < s) : 0 < jerkUpTime c s :=
  cbrt_pos (div_pos (by linarith) h.jerk_pos)

/-- The first phase reaches the displacement. -/
theorem jerkUpStep_dist (s : ℝ) : (jerkUpStep c (jerkUpTime c s)).dist = s := by
  have hcube : jerkUpTime c s ^ 3 = s * 6 / c.jerk := cbrt_pow _
  have hJ := h.jerk_pos.ne'
  have hpow : jerkUpTime c s * jerkUpTime c s * jerkUpTime c s = s * 6 / c.jerk := by
    rw [← hcube]
    ring
  rw [jerkUpStep, hpow]
  field_simp

theorem constantTime_nonneg {u : ℝ} (hu : 0 ≤ u) : 0 ≤ constantTime c u :=
  travelTime_nonneg h.acceleration_pos hu

theorem constantTime_lt {u : ℝ} (hu : 0 ≤ u) (hud : u < d2 c) : constantTime c u < t2 c := by
  refine travelTime_lt (v1_pos h.positive).le h.acceleration_pos hu ?_ (t2_nonneg h)
  rw [pow_two]
  exact hud

/-- The second phase reaches the displacement. -/
theorem constantStep_dist {u : ℝ} (hu : 0 ≤ u) :
    (constantStep c (constantTime c u)).dist = d1 c + u := by
  have hspec : v1 c * constantTime c u + c.acceleration * constantTime c u ^ 2 / 2 = u :=
    travelTime_spec h.acceleration_pos hu
  simp only [constantStep]
  linarith

theorem d3Mid_pos : 0 < d3Mid c := by
  have hv := mul_pos (v2_pos h) (t1_pos h.positive)
  have hA := mul_pos h.acceleration_pos (pow_pos (t1_pos h.positive) 2)
  rw [d3Mid_eq h.positive]
  linarith

/-- The robot is past the middle of the third phase's time before the middle of its displacement. -/
theorem two_mul_d3Mid_le : 2 * d3Mid c ≤ d3 c := by
  have hA := mul_pos h.acceleration_pos (pow_pos (t1_pos h.positive) 2)
  rw [d3Mid_eq h.positive, d3_eq h.positive]
  linarith

/-- It is not far off the middle: the interpolation is monotone. -/
theorem d3_slope : d3 c ^ 2 + 2 * d3Mid c ^ 2 < 4 * d3Mid c * d3 c := by
  have hx := mul_pos (v2_pos h) (t1_pos h.positive)
  have hy := mul_pos h.acceleration_pos (pow_pos (t1_pos h.positive) 2)
  rw [d3Mid_eq h.positive, d3_eq h.positive]
  generalize v2 c * t1 c = x at hx ⊢
  rw [show 5 * c.acceleration * t1 c ^ 2 / 48 = 5 * (c.acceleration * t1 c ^ 2) / 48 by ring]
  generalize c.acceleration * t1 c ^ 2 = y at hy ⊢
  nlinarith [mul_pos hx hx, mul_pos hx hy, mul_pos hy hy]

theorem d3_pos : 0 < d3 c := by linarith [d3Mid_pos h, two_mul_d3Mid_le h]

theorem jerkDownTime_nonneg {u : ℝ} (hu : 0 ≤ u) (hud : u < d3 c) : 0 ≤ jerkDownTime c u :=
  interp_nonneg (d3Mid_pos h) (t1_pos h.positive) (two_mul_d3Mid_le h) hu hud.le

theorem jerkDownTime_lt {u : ℝ} (hud : u < d3 c) : jerkDownTime c u < t3 c :=
  interp_lt (d3Mid_pos h) (t1_pos h.positive) (two_mul_d3Mid_le h) (d3_slope h) hud

/-! ### The time and the displacement -/

theorem d2_nonneg : 0 ≤ d2 c := by
  have ht := t2_nonneg h
  exact add_nonneg (mul_nonneg (v1_pos h.positive).le ht)
    (div_nonneg (mul_nonneg h.acceleration_pos.le (mul_nonneg ht ht)) two_pos.le)

theorem timeAtDisplacement_lt {s : ℝ} (hs : s < totalDisplacement c) :
    timeAtDisplacement c s < totalTime c := by
  have ht1 := t1_pos h.positive
  have ht2 := t2_nonneg h
  rw [totalDisplacement] at hs
  rw [totalTime, timeAtDisplacement]
  split_ifs with h₁ h₂ h₃
  · have := jerkUpTime_lt h h₁
    rw [t3]
    linarith
  · have := constantTime_lt h (by linarith) h₂
    rw [t3]
    linarith
  · have := jerkDownTime_lt h h₃
    linarith
  · linarith

/-- The displacement of the end, and any after it, is that of the total time. -/
theorem timeAtDisplacement_final {s : ℝ} (hs : totalDisplacement c ≤ s) :
    timeAtDisplacement c s = totalTime c := by
  have hd2 := d2_nonneg h
  have hd3 := d3_pos h
  rw [totalDisplacement] at hs
  rw [timeAtDisplacement, if_neg (by linarith), if_neg (by linarith), if_neg (by linarith),
    totalTime]

theorem timeAtDisplacement_le (s : ℝ) : timeAtDisplacement c s ≤ totalTime c := by
  rcases lt_or_ge s (totalDisplacement c) with hs | hs
  · exact (timeAtDisplacement_lt h hs).le
  · exact (timeAtDisplacement_final h hs).le

/-- The step at a time of the second phase. -/
theorem stepAtT_constant {t : ℝ} (ht : 0 ≤ t) (ht' : t < t2 c) :
    stepAtT c (t + t1 c) = constantStep c t := by
  have ht1 := t1_pos h.positive
  rw [stepAtT, if_neg (by linarith), if_neg (by linarith), add_sub_cancel_right, if_pos ht']

/-- The step at a time of the third phase. -/
theorem stepAtT_jerkDown {t : ℝ} (ht : 0 ≤ t) (ht' : t < t3 c) :
    stepAtT c (t + t1 c + t2 c) = jerkDownStep c t := by
  have ht1 := t1_pos h.positive
  have ht2 := t2_nonneg h
  have hsub : t + t1 c + t2 c - t1 c - t2 c = t := by ring
  rw [stepAtT, if_neg (by linarith), if_neg (by linarith), if_neg (by linarith), hsub, if_pos ht']

/-- The step from the end of the third phase on. -/
theorem stepAtT_final {t : ℝ} (ht : totalTime c ≤ t) : stepAtT c t = finalStep c := by
  have ht1 := t1_pos h.positive
  have ht2 := t2_nonneg h
  rw [totalTime, t3] at ht
  rw [stepAtT, if_neg (by linarith), if_neg (by linarith), if_neg (by linarith), t3,
    if_neg (by linarith)]

/-- **The step at a displacement** is the one at the time of that displacement. -/
theorem stepAtDisplacement_eq_stepAtT (s : ℝ) :
    stepAtDisplacement c s = stepAtT c (timeAtDisplacement c s) := by
  have hd1 := d1_pos h.positive
  rcases le_or_gt s 0 with h₀ | h₀
  · rw [stepAtDisplacement, if_pos h₀, timeAtDisplacement, if_pos (by linarith), stepAtT,
      if_pos (jerkUpTime_nonpos h h₀)]
  rw [stepAtDisplacement, if_neg (not_le.2 h₀), timeAtDisplacement]
  split_ifs with h₁ h₂ h₃
  · rw [stepAtT, if_neg (not_le.2 (jerkUpTime_pos h h₀)), if_pos (jerkUpTime_lt h h₁)]
  · have hu : 0 ≤ s - d1 c := by linarith
    rw [stepAtT_constant h (constantTime_nonneg h hu) (constantTime_lt h hu h₂)]
  · have hu : 0 ≤ s - d1 c - d2 c := by linarith
    rw [stepAtT_jerkDown h (jerkDownTime_nonneg h hu h₃) (jerkDownTime_lt h h₃)]
  · exact (stepAtT_final h le_rfl).symm

/-- In the first two phases the step is at the displacement. -/
theorem stepAtDisplacement_dist {s : ℝ} (hs : 0 ≤ s) (hs' : s < d1 c + d2 c) :
    (stepAtDisplacement c s).dist = s := by
  unfold stepAtDisplacement
  split_ifs with h₀ h₁ h₂ h₃
  · exact le_antisymm hs h₀
  · exact jerkUpStep_dist h s
  · rw [constantStep_dist h (by linarith)]
    ring
  · linarith
  · linarith

end Members

end SCurveAcceleration

end Aimbots.Motion
