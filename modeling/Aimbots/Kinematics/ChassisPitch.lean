import Aimbots.Ballistics.Trajectory
import Aimbots.Library.Numerals
import Mathlib.Analysis.Convex.SpecificFunctions.Deriv
import Mathlib.Analysis.SpecialFunctions.Sqrt
import Mathlib.Analysis.SpecialFunctions.Trigonometric.ArctanDeriv
import Mathlib.Analysis.SpecialFunctions.Trigonometric.Bounds
import Mathlib.Topology.Algebra.Module.ModuleTopology

/-!
# The pitch of the chassis in the direction of the gimbal

`getChassisPitchAngleInGimbalDirection` finds how far the chassis is pitched along the line that the
gimbal looks, from its roll and its pitch.  `getChassisPitchVelocityInGimbalDirection` is the same
formula with the two rates in place of the two angles.

At a level chassis the angle changes at the rate `cos y * wp + sin y * wr`
(`hasDerivAt_pitchAngle`).  The formula gives an angle of at most a right one for any rates;
`pitchVelocity_iff` says for which rates it is the rate of change.
-/

namespace Aimbots.Informants

open Ballistics (atan2 atan2_eq_arctan)
open Real
open scoped Numerals

/-- What both functions compute, from the yaw of the gimbal and two quantities of the chassis. -/
noncomputable def inGimbalDirection (gimbYaw chasRoll chasPitch : ℝ) : ℝ :=
  let sinGimbYaw := sin gimbYaw
  let cosGimbYaw := cos gimbYaw
  let sinChasRoll := sin chasRoll
  let cosChasRoll := cos chasRoll
  let sinChasPitch := sin chasPitch
  let cosChasPitch := cos chasPitch
  atan2 (cosGimbYaw * sinChasPitch + sinGimbYaw * sinChasRoll)
    √(sinGimbYaw ^ 2 * cosChasRoll ^ 2 + cosGimbYaw ^ 2 * cosChasPitch ^ 2)

/-- `getChassisPitchAngleInGimbalDirection`. -/
noncomputable def getChassisPitchAngleInGimbalDirection (gimbYaw chassisRoll chassisPitch : ℝ) :
    ℝ :=
  inGimbalDirection gimbYaw chassisRoll chassisPitch

/-- `getChassisPitchVelocityInGimbalDirection`. -/
noncomputable def getChassisPitchVelocityInGimbalDirection
    (gimbYaw chassisRollVelocity chassisPitchVelocity : ℝ) : ℝ :=
  inGimbalDirection gimbYaw chassisRollVelocity chassisPitchVelocity

/-- The rate of change of the angle, at a level chassis. -/
noncomputable def pitchRate (y wr wp : ℝ) : ℝ := cos y * wp + sin y * wr

/-! ### The angle -/

/-- **The rate of change of the angle** at a level chassis, for a gimbal that does not turn. -/
theorem hasDerivAt_pitchAngle {roll pitch : ℝ → ℝ} {t wr wp : ℝ} (hroll : HasDerivAt roll wr t)
    (hpitch : HasDerivAt pitch wp t) (hroll₀ : roll t = 0) (hpitch₀ : pitch t = 0) (y : ℝ) :
    HasDerivAt (fun u => getChassisPitchAngleInGimbalDirection y (roll u) (pitch u))
      (pitchRate y wr wp) t := by
  let N : ℝ → ℝ := fun u => cos y * sin (pitch u) + sin y * sin (roll u)
  let D : ℝ → ℝ := fun u => sin y ^ 2 * cos (roll u) ^ 2 + cos y ^ 2 * cos (pitch u) ^ 2
  have hN₀ : N t = 0 := by simp [N, hroll₀, hpitch₀]
  have hD₀ : D t = 1 := by simp [D, hroll₀, hpitch₀]
  have hN : HasDerivAt N (pitchRate y wr wp) t := by
    refine ((hpitch.sin.const_mul (cos y)).add (hroll.sin.const_mul (sin y))).congr_deriv ?_
    rw [hpitch₀, hroll₀, cos_zero, one_mul, one_mul]
    rfl
  have hD : HasDerivAt D 0 t := by
    refine (((hroll.cos.pow 2).const_mul (sin y ^ 2)).add
      ((hpitch.cos.pow 2).const_mul (cos y ^ 2))).congr_deriv ?_
    simp [hroll₀, hpitch₀]
  have hquot : HasDerivAt (fun u => N u / √(D u)) (pitchRate y wr wp) t := by
    refine (hN.div (hD.sqrt (by rw [hD₀]; exact one_ne_zero)) (by simp [hD₀])).congr_deriv ?_
    simp [hN₀, hD₀]
  have harctan : HasDerivAt (fun u => arctan (N u / √(D u))) (pitchRate y wr wp) t := by
    refine hquot.arctan.congr_deriv ?_
    simp [hN₀]
  refine harctan.congr_of_eventuallyEq ?_
  have hpos : ∀ᶠ u in nhds t, 0 < D u :=
    hD.continuousAt.eventually (lt_mem_nhds (by rw [hD₀]; exact one_pos))
  filter_upwards [hpos] with u hu
  exact atan2_eq_arctan (sqrt_pos.2 hu) _

/-! ### The velocity -/

theorem eq_zero_of_sum_sq {a b c : ℝ} (h : a ^ 2 + b ^ 2 + c ^ 2 = 0) : a = 0 ∧ b = 0 ∧ c = 0 := by
  have ha := sq_nonneg a
  have hb := sq_nonneg b
  have hc := sq_nonneg c
  refine ⟨?_, ?_, ?_⟩ <;> refine (pow_eq_zero_iff two_ne_zero).1 (by linarith)

/-- When an angle of a point in the right half plane is a given one. -/
theorem atan2_eq_iff {n d x : ℝ} (hd : 0 ≤ d) :
    atan2 n d = x ↔ |x| ≤ π / 2 ∧ sin x * √(d ^ 2 + n ^ 2) = n ∧ (d ^ 2 + n ^ 2 = 0 → x = 0) := by
  have hnorm : ‖(⟨d, n⟩ : ℂ)‖ = √(d ^ 2 + n ^ 2) := Complex.norm_eq_sqrt_sq_add_sq _
  have hsq : 0 ≤ d ^ 2 + n ^ 2 := add_nonneg (sq_nonneg d) (sq_nonneg n)
  constructor
  · rintro rfl
    refine ⟨Complex.abs_arg_le_pi_div_two_iff.2 hd, ?_, fun hzero => ?_⟩
    · rw [mul_comm, ← hnorm]
      exact Complex.norm_mul_sin_arg _
    · obtain ⟨hd₀, hn₀, -⟩ := eq_zero_of_sum_sq (a := d) (b := n) (c := 0) (by rw [hzero]; ring)
      rw [hd₀, hn₀]
      exact Complex.arg_zero
  · rintro ⟨hx, hsin, hzero⟩
    have harg : atan2 n d = arcsin (n / √(d ^ 2 + n ^ 2)) := by
      rw [← hnorm]
      exact Complex.arg_of_re_nonneg hd
    obtain ⟨hlow, hhigh⟩ := abs_le.1 hx
    rcases eq_or_ne (d ^ 2 + n ^ 2) 0 with h₀ | h₀
    · rw [harg, h₀, hzero h₀]
      simp
    · have hpos : 0 < √(d ^ 2 + n ^ 2) := sqrt_pos.2 (lt_of_le_of_ne hsq h₀.symm)
      rw [harg, (div_eq_iff hpos.ne').2 hsin.symm]
      exact arcsin_sin hlow hhigh

/-- The point whose angle the formula takes. -/
theorem sq_add_sq_eq (y wr wp : ℝ) :
    √(sin y ^ 2 * cos wr ^ 2 + cos y ^ 2 * cos wp ^ 2) ^ 2 + (cos y * sin wp + sin y * sin wr) ^ 2 =
      1 + 2 * sin y * cos y * (sin wp * sin wr) := by
  rw [sq_sqrt (by positivity), cos_sq' wr, cos_sq' wp]
  linear_combination sin_sq_add_cos_sq y

/-- A whole number of turns, seen at an angle of an eighth of one, is zero or too many. -/
theorem eq_zero_of_cos_eq_one {a x : ℝ} (ha : a ^ 2 = 1 / 2) (hx : cos x = 1)
    (hle : |a * x| ≤ π / 2) : a * x = 0 := by
  obtain ⟨n, rfl⟩ := (cos_eq_one_iff x).1 hx
  rcases eq_or_ne n 0 with rfl | hn
  · simp
  · exfalso
    have hn' : (1 : ℝ) ≤ |(n : ℝ)| := by exact_mod_cast Int.one_le_abs hn
    have hhalf : 1 / 2 < |a| := by
      rw [← sq_abs] at ha
      by_contra hle
      nlinarith [abs_nonneg a, not_lt.1 hle]
    have hpi := pi_pos
    rw [abs_mul, abs_mul, abs_of_pos (by linarith : 0 < 2 * π)] at hle
    have hprod : 1 / 2 * (1 * (2 * π)) ≤ |a| * (|(n : ℝ)| * (2 * π)) :=
      mul_le_mul hhalf.le (mul_le_mul_of_nonneg_right hn' (by linarith)) (by linarith)
        (abs_nonneg a)
    linarith

/-- The formula takes the angle of no point only for rates that cancel. -/
theorem pitchRate_eq_zero {y wr wp : ℝ} (hle : |pitchRate y wr wp| ≤ π / 2)
    (hzero : 1 + 2 * sin y * cos y * (sin wp * sin wr) = 0) : pitchRate y wr wp = 0 := by
  have hy := sin_sq_add_cos_sq y
  have hp := sin_sq_add_cos_sq wp
  have hr := sin_sq_add_cos_sq wr
  have hsum : (sin y * cos wr) ^ 2 + (cos y * cos wp) ^ 2 + (cos y * sin wp + sin y * sin wr) ^ 2 =
      0 := by
    rw [← hzero, mul_pow, mul_pow, cos_sq' wr, cos_sq' wp]
    linear_combination hy
  obtain ⟨hsr, hcp, hn⟩ := eq_zero_of_sum_sq hsum
  have hy₀ : sin y ≠ 0 := fun h => by rw [h] at hzero; norm_num at hzero
  have hy₁ : cos y ≠ 0 := fun h => by rw [h] at hzero; norm_num at hzero
  have hwr : cos wr = 0 := (mul_eq_zero.1 hsr).resolve_left hy₀
  have hwp : cos wp = 0 := (mul_eq_zero.1 hcp).resolve_left hy₁
  rw [hwp] at hp
  rw [hwr] at hr
  have hsq : cos y ^ 2 = sin y ^ 2 := by
    have h : (cos y * sin wp) ^ 2 = (sin y * sin wr) ^ 2 := by
      rw [eq_neg_of_add_eq_zero_left hn, neg_sq]
    nlinarith
  have hhalf : cos y ^ 2 = 1 / 2 := by linarith
  -- the yaw is halfway between the axes, and the two rates are half a turn apart or cancel
  rcases sq_eq_sq_iff_eq_or_eq_neg.1 hsq with hsame | hopp
  · have hwpr : sin wp = -sin wr := by
      rw [← hsame, ← mul_add] at hn
      exact eq_neg_of_add_eq_zero_left ((mul_eq_zero.1 hn).resolve_left hy₁)
    have hcos : cos (wp + wr) = 1 := by
      rw [cos_add, hwp, hwr, hwpr]
      linarith
    rw [pitchRate, ← hsame, ← mul_add] at hle ⊢
    exact eq_zero_of_cos_eq_one hhalf hcos hle
  · have hsin : sin y = -cos y := by rw [hopp, neg_neg]
    have hwpr : sin wp = sin wr := by
      rw [hsin, neg_mul, ← sub_eq_add_neg, ← mul_sub] at hn
      exact sub_eq_zero.1 ((mul_eq_zero.1 hn).resolve_left hy₁)
    have hcos : cos (wp - wr) = 1 := by
      rw [cos_sub, hwp, hwr, hwpr]
      linarith
    rw [pitchRate, hsin, neg_mul, ← sub_eq_add_neg, ← mul_sub] at hle ⊢
    exact eq_zero_of_cos_eq_one hhalf hcos hle

/-- **When the velocity is the rate of change of the angle**: the rate is at most a right angle a
second, and its sine, times the length of the point whose angle the formula takes, is the point's
ordinate. -/
theorem velocity_eq_iff (y wr wp : ℝ) :
    getChassisPitchVelocityInGimbalDirection y wr wp = pitchRate y wr wp ↔
      |pitchRate y wr wp| ≤ π / 2 ∧
        sin (pitchRate y wr wp) * √(1 + 2 * sin y * cos y * (sin wp * sin wr)) =
          cos y * sin wp + sin y * sin wr := by
  have hiff := atan2_eq_iff (n := cos y * sin wp + sin y * sin wr) (x := pitchRate y wr wp)
    (sqrt_nonneg (sin y ^ 2 * cos wr ^ 2 + cos y ^ 2 * cos wp ^ 2))
  rw [sq_add_sq_eq] at hiff
  refine hiff.trans ⟨fun ⟨hle, hsin, _⟩ => ⟨hle, hsin⟩, fun ⟨hle, hsin⟩ => ⟨hle, hsin, ?_⟩⟩
  exact pitchRate_eq_zero hle

/-- A sine is greater than that of a larger angle, scaled down. -/
theorem mul_sin_lt_sin_mul {a x : ℝ} (ha : 0 < a) (ha' : a < 1) (hx : 0 < x) (hle : a * x ≤ π / 2) :
    a * sin x < sin (a * x) := by
  rcases le_or_gt x π with hxπ | hxπ
  · have hconcave := strictConcaveOn_sin_Icc.2 ⟨hx.le, hxπ⟩ ⟨le_rfl, pi_pos.le⟩ hx.ne' ha
      (sub_pos.2 ha') (add_sub_cancel a 1)
    simpa using hconcave
  · have hbound : 2 / π * (a * x) ≤ sin (a * x) := mul_le_sin (by positivity) hle
    have hlarge : a < 2 / π * (a * x) := by
      rw [div_mul_eq_mul_div, lt_div_iff₀ pi_pos]
      nlinarith
    calc a * sin x ≤ a * 1 := mul_le_mul_of_nonneg_left (sin_le_one x) ha.le
      _ < sin (a * x) := by linarith

/-- The same for angles and scales of any sign. -/
theorem sin_mul_ne {a x : ℝ} (ha : a ≠ 0) (ha' : |a| < 1) (hx : x ≠ 0) (hle : |a * x| ≤ π / 2) :
    sin (a * x) ≠ a * sin x := by
  intro heq
  have habs : sin (|a| * |x|) = |a| * sin |x| := by
    rcases abs_cases a with ⟨hapos, -⟩ | ⟨haneg, -⟩ <;>
      rcases abs_cases x with ⟨hxpos, -⟩ | ⟨hxneg, -⟩ <;>
      simp only [*, neg_mul, mul_neg, neg_neg, sin_neg]
  rw [abs_mul] at hle
  exact (mul_sin_lt_sin_mul (abs_pos.2 ha) ha' (abs_pos.2 hx) hle).ne habs.symm

/-- **A pitch rate and no roll rate**: the velocity is right if there is no rate, if the gimbal
looks along the other axis, or if it looks along the pitch and the rate is at most a right angle a
second. -/
theorem velocity_single_iff (y wp : ℝ) :
    getChassisPitchVelocityInGimbalDirection y 0 wp = pitchRate y 0 wp ↔
      wp = 0 ∨ cos y = 0 ∨ (sin y = 0 ∧ |wp| ≤ π / 2) := by
  have hy := sin_sq_add_cos_sq y
  have hrate : pitchRate y 0 wp = cos y * wp := by simp [pitchRate]
  rw [velocity_eq_iff, hrate, sin_zero, mul_zero, mul_zero, add_zero, sqrt_one, mul_one, mul_zero,
    add_zero]
  constructor
  · rintro ⟨hle, hsin⟩
    by_contra! hne
    obtain ⟨hwp, hcos, hsiny⟩ := hne
    rcases eq_or_ne (sin y) 0 with hzero | hnonzero
    · have habs : |cos y| = 1 := by
        rw [← sq_eq_sq₀ (abs_nonneg _) zero_le_one, sq_abs]
        rw [hzero] at hy
        linarith
      rw [abs_mul, habs, one_mul] at hle
      exact absurd hle (not_le.2 (hsiny hzero))
    · have habs : |cos y| < 1 := by
        rw [← sq_lt_one_iff_abs_lt_one]
        have := pow_pos (abs_pos.2 hnonzero) 2
        rw [sq_abs] at this
        linarith
      exact sin_mul_ne hcos habs hwp hle hsin
  · have hpi : 0 ≤ π / 2 := pi_div_two_pos.le
    rintro (rfl | hcos | ⟨hsiny, hle⟩)
    · simpa using hpi
    · simpa [hcos] using hpi
    · have hcos : cos y = 1 ∨ cos y = -1 := by
        rw [hsiny] at hy
        exact mul_self_eq_one_iff.1 (by linarith)
      rcases hcos with hcos | hcos <;> rw [hcos] <;> simp [hle, sin_neg]

/-- **When the pitch velocity is right**, that is, when it is `cos y * wp + sin y * wr` and the rate
of change of the pitch angle at a level chassis. -/
theorem pitchVelocity_iff (y wr wp : ℝ) :
    ((getChassisPitchVelocityInGimbalDirection y wr wp = cos y * wp + sin y * wr ∧
        HasDerivAt (fun t => getChassisPitchAngleInGimbalDirection y (t * wr) (t * wp))
          (getChassisPitchVelocityInGimbalDirection y wr wp) 0) ↔
      |cos y * wp + sin y * wr| ≤ π / 2 ∧
        sin (cos y * wp + sin y * wr) * √(1 + 2 * sin y * cos y * (sin wp * sin wr)) =
          cos y * sin wp + sin y * sin wr) ∧
    (getChassisPitchVelocityInGimbalDirection y 0 wp = cos y * wp + sin y * 0 ↔
      wp = 0 ∨ cos y = 0 ∨ (sin y = 0 ∧ |wp| ≤ π / 2)) := by
  refine ⟨Iff.trans ⟨And.left, fun h => ⟨h, ?_⟩⟩ (velocity_eq_iff y wr wp),
    velocity_single_iff y wp⟩
  have hline : ∀ w : ℝ, HasDerivAt (fun t => t * w) w 0 := fun w => by
    simpa using (hasDerivAt_id (0 : ℝ)).mul_const w
  rw [h]
  exact hasDerivAt_pitchAngle (hline wr) (hline wp) (zero_mul wr) (zero_mul wp) y

/-- Three radians a second, in the direction of the gimbal. -/
theorem pitchVelocity_fast :
    getChassisPitchVelocityInGimbalDirection 0 0 3 ≠ cos 0 * 3 + sin 0 * 0 := by
  intro h
  have hpi := pi_le_four
  rcases (velocity_single_iff 0 3).1 h with h₀ | h₀ | ⟨-, h₀⟩
  · norm_num at h₀
  · exact absurd h₀ (by simp)
  · rw [abs_of_pos three_pos] at h₀
    linarith

end Aimbots.Informants
