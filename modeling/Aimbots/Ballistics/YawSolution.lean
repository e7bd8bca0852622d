import Aimbots.Ballistics.Trajectory
import Mathlib.Tactic.LinearCombination

/-!
# The yaw of `findTargetProjectileIntersection`

The barrel is `bx` to the side of the yaw axis.  The yaw that points it at a target has a cosine
that the code computes, and the code gives it a sign by comparing the target's `x` with `bx`.  That
is the right sign in front of the axis and to both sides, but not for a target behind the axis that
is closer to its line of sight than the barrel is.
-/

namespace Aimbots.Ballistics

noncomputable section

variable {bx x y w : ℝ}

/-- Turned by `w`, the line of the barrel passes through `(x, y)`, in front of it. -/
structure PointsAt (bx x y w : ℝ) : Prop where
  on_line : x * Real.cos w + y * Real.sin w = bx
  in_front : 0 < -x * Real.sin w + y * Real.cos w

/-- The target is not behind the axis, or it is at least as far to the side as the barrel is; and it
is not behind a barrel on the right. -/
def InSight (bx x y : ℝ) : Prop := 0 ≤ y ∨ (|bx| ≤ |x| ∧ ¬ (x = bx ∧ 0 < bx))

/-- How far along the barrel's line the target is. -/
def alongBarrel (bx x y : ℝ) : ℝ := √(x ^ 2 + y ^ 2 - bx ^ 2)

/-- The cosine of the yaw. -/
def yawCosine (bx x y : ℝ) : ℝ := (y * alongBarrel bx x y + bx * x) / (x ^ 2 + y ^ 2)

/-- The sine of the yaw that points at the target, up to a positive factor. -/
def crossTerm (bx x y : ℝ) : ℝ := bx * y - alongBarrel bx x y * x

section Far

variable (hfar : bx ^ 2 < x ^ 2 + y ^ 2)
include hfar

theorem alongBarrel_pos : 0 < alongBarrel bx x y := Real.sqrt_pos.2 (sub_pos.2 hfar)

theorem alongBarrel_sq : alongBarrel bx x y ^ 2 = x ^ 2 + y ^ 2 - bx ^ 2 :=
  Real.sq_sqrt (sub_pos.2 hfar).le

theorem distance_pos : 0 < x ^ 2 + y ^ 2 := (sq_nonneg bx).trans_lt hfar

/-- The yaws that point at the target, by their cosine and sine. -/
theorem pointsAt_iff :
    PointsAt bx x y w ↔
      Real.cos w = yawCosine bx x y ∧
        Real.sin w = crossTerm bx x y / (x ^ 2 + y ^ 2) := by
  have hr := distance_pos hfar
  have hs := alongBarrel_sq hfar
  rw [yawCosine, eq_div_iff hr.ne', eq_div_iff hr.ne', crossTerm]
  constructor
  · rintro ⟨hline, hfront⟩
    -- the square of the way along the line is what is left of the distance
    have hsq : (-x * Real.sin w + y * Real.cos w) ^ 2 = alongBarrel bx x y ^ 2 := by
      rw [hs, ← hline]
      linear_combination (x ^ 2 + y ^ 2) * Real.sin_sq_add_cos_sq w
    have halong : -x * Real.sin w + y * Real.cos w = alongBarrel bx x y :=
      (pow_left_inj₀ hfront.le (alongBarrel_pos hfar).le two_ne_zero).1 hsq
    constructor
    · linear_combination y * halong + x * hline
    · linear_combination y * hline - x * halong
  · rintro ⟨hcos, hsin⟩
    have hline : (x * Real.cos w + y * Real.sin w) * (x ^ 2 + y ^ 2) = bx * (x ^ 2 + y ^ 2) := by
      linear_combination x * hcos + y * hsin
    have halong : (-x * Real.sin w + y * Real.cos w) * (x ^ 2 + y ^ 2) =
        alongBarrel bx x y * (x ^ 2 + y ^ 2) := by
      linear_combination y * hcos - x * hsin
    constructor
    · exact mul_right_cancel₀ hr.ne' hline
    · rw [mul_right_cancel₀ hr.ne' halong]
      exact alongBarrel_pos hfar

theorem crossTerm_sq :
    (bx * y) ^ 2 - (alongBarrel bx x y * x) ^ 2 = (x ^ 2 + y ^ 2) * (bx ^ 2 - x ^ 2) := by
  linear_combination -x ^ 2 * alongBarrel_sq hfar

/-- As far to the side as the barrel or further, the side alone decides. -/
theorem abs_barrel_le (h : |bx| ≤ |x|) : |bx * y| ≤ alongBarrel bx x y * |x| := by
  rw [← abs_of_pos (alongBarrel_pos hfar), ← abs_mul]
  apply sq_le_sq.1
  have hle : bx ^ 2 - x ^ 2 ≤ 0 := sub_nonpos.2 (sq_le_sq.2 h)
  linarith [crossTerm_sq hfar, mul_nonpos_of_nonneg_of_nonpos (distance_pos hfar).le hle]

/-- Closer than that, the barrel decides. -/
theorem abs_along_lt (h : |x| < |bx|) : alongBarrel bx x y * |x| < |bx * y| := by
  rw [← abs_of_pos (alongBarrel_pos hfar), ← abs_mul]
  apply sq_lt_sq.1
  have hlt : 0 < bx ^ 2 - x ^ 2 := sub_pos.2 (sq_lt_sq.2 h)
  linarith [crossTerm_sq hfar, mul_pos (distance_pos hfar) hlt]

/-- Closer to the side than the barrel, a target has the sine of the barrel's side if it is not
behind the axis, and that of the other side if it is. -/
theorem mul_crossTerm_nonneg_iff (h : |x| < |bx|) : 0 ≤ bx * crossTerm bx x y ↔ 0 ≤ y := by
  have hbx : 0 < |bx| := (abs_nonneg x).trans_lt h
  have hs := (alongBarrel_pos hfar).le
  have hlt := mul_lt_mul_of_pos_left (abs_along_lt hfar h) hbx
  have hside : |bx * (alongBarrel bx x y * x)| = |bx| * (alongBarrel bx x y * |x|) := by
    rw [abs_mul, abs_mul, abs_of_nonneg hs]
  have hsq : |bx| * |bx * y| = bx * bx * |y| := by
    rw [abs_mul, ← mul_assoc, abs_mul_abs_self]
  rw [← hside, hsq] at hlt
  have hcross : bx * crossTerm bx x y = bx * bx * y - bx * (alongBarrel bx x y * x) := by
    rw [crossTerm]
    ring
  rw [hcross]
  rcases le_or_gt 0 y with hy | hy
  · rw [abs_of_nonneg hy] at hlt
    exact iff_of_true (by linarith [le_abs_self (bx * (alongBarrel bx x y * x))]) hy
  · rw [abs_of_neg hy] at hlt
    exact iff_of_false (by linarith [neg_abs_le (bx * (alongBarrel bx x y * x))]) hy.not_ge

omit hfar in
theorem inSight_iff_of_lt (h : |x| < |bx|) : InSight bx x y ↔ 0 ≤ y :=
  or_iff_left fun hfar => h.not_ge hfar.1

theorem crossTerm_nonpos_iff (hside : bx < x) : crossTerm bx x y ≤ 0 ↔ InSight bx x y := by
  rcases le_or_gt |bx| |x| with h | h
  · have hle := abs_barrel_le hfar h
    have hx : 0 < x := by
      by_contra hneg
      rw [abs_of_nonpos (not_lt.1 hneg)] at h
      linarith [neg_abs_le bx]
    rw [abs_of_pos hx] at hle
    have hin : |bx| ≤ |x| ∧ ¬ (x = bx ∧ 0 < bx) := ⟨h, fun heq => hside.ne' heq.1⟩
    exact iff_of_true (sub_nonpos.2 ((le_abs_self _).trans hle)) (.inr hin)
  · have hbx : bx < 0 := by
      by_contra hpos
      rw [abs_of_nonneg (not_lt.1 hpos)] at h
      linarith [le_abs_self x]
    rw [inSight_iff_of_lt h, ← mul_crossTerm_nonneg_iff hfar h, ← neg_mul_neg]
    rw [mul_nonneg_iff_of_pos_left (neg_pos.2 hbx), neg_nonneg]

theorem crossTerm_nonneg_iff (hside : x ≤ bx) : 0 ≤ crossTerm bx x y ↔ InSight bx x y := by
  rcases le_or_gt |bx| |x| with h | h
  · rw [crossTerm, sub_nonneg, InSight]
    have hle := abs_barrel_le hfar h
    rcases le_or_gt x 0 with hx | hx
    · rw [abs_of_nonpos hx] at hle
      have hin : ¬ (x = bx ∧ 0 < bx) := fun heq => (heq.1 ▸ heq.2).not_ge hx
      exact iff_of_true (by linarith [neg_abs_le (bx * y)]) (.inr ⟨h, hin⟩)
    · -- the target is as far on the right as the barrel
      rw [abs_of_pos hx] at h
      obtain rfl : x = bx := le_antisymm hside ((le_abs_self bx).trans h)
      have hs : alongBarrel x x y = |y| := by
        rw [alongBarrel, add_sub_cancel_left, Real.sqrt_sq_eq_abs]
      rw [hs, mul_comm, mul_le_mul_iff_right₀ hx]
      constructor
      · intro habs
        exact .inl ((abs_nonneg y).trans habs)
      · rintro (hy | ⟨-, hne⟩)
        · exact (abs_of_nonneg hy).le
        · exact absurd ⟨rfl, hx⟩ hne
  · have hbx : 0 < bx := by
      by_contra hneg
      rw [abs_of_nonpos (not_lt.1 hneg)] at h
      linarith [neg_abs_le x]
    rw [inSight_iff_of_lt h, ← mul_crossTerm_nonneg_iff hfar h, mul_nonneg_iff_of_pos_left hbx]

/-- The cosine that the code computes and the sine of the yaw that points at the target. -/
theorem yawCosine_sq_add :
    yawCosine bx x y ^ 2 + (crossTerm bx x y / (x ^ 2 + y ^ 2)) ^ 2 = 1 := by
  have hr := (distance_pos hfar).ne'
  rw [yawCosine, crossTerm, div_pow, div_pow, ← add_div, div_eq_one_iff_eq (pow_ne_zero 2 hr)]
  linear_combination (x ^ 2 + y ^ 2) * alongBarrel_sq hfar

theorem abs_yawCosine_le : |yawCosine bx x y| ≤ 1 :=
  (sq_le_one_iff_abs_le_one _).1 (by
    linarith [yawCosine_sq_add hfar, sq_nonneg (crossTerm bx x y / (x ^ 2 + y ^ 2))])

theorem sin_arccos_yawCosine :
    Real.sin (Real.arccos (yawCosine bx x y)) = |crossTerm bx x y| / (x ^ 2 + y ^ 2) := by
  have hsq : 1 - yawCosine bx x y ^ 2 = (crossTerm bx x y / (x ^ 2 + y ^ 2)) ^ 2 := by
    linarith [yawCosine_sq_add hfar]
  rw [Real.sin_arccos, hsq, Real.sqrt_sq_eq_abs, abs_div, abs_of_pos (distance_pos hfar)]

/-- There is a yaw for a target that is not closer than the barrel is to the side. -/
theorem turretYaw_eq :
    turretYaw bx x y = some (if x - bx > 0 then Real.arccos (yawCosine bx x y) * -1
      else Real.arccos (yawCosine bx x y)) := by
  have hin : ¬ (x ^ 2 + y ^ 2 - bx ^ 2 < 0 ∨ x ^ 2 + y ^ 2 = 0) := by
    rintro (h | h)
    · linarith
    · exact (distance_pos hfar).ne' h
  simp only [turretYaw]
  rw [if_neg hin]
  refine (if_neg (not_lt.2 (abs_yawCosine_le hfar))).trans ?_
  split_ifs <;> rfl

/-- **The yaw points at the target if and only if that is in sight.** -/
theorem turretYaw_pointsAt_iff (hw : turretYaw bx x y = some w) :
    PointsAt bx x y w ↔ InSight bx x y := by
  have hr := (distance_pos hfar).ne'
  have hle := abs_le.1 (abs_yawCosine_le hfar)
  have hcos := Real.cos_arccos hle.1 hle.2
  rw [turretYaw_eq hfar, Option.some.injEq] at hw
  subst hw
  rw [pointsAt_iff hfar]
  split_ifs with hside
  · rw [mul_neg_one, Real.cos_neg, Real.sin_neg, hcos, sin_arccos_yawCosine hfar, and_iff_right rfl,
      ← neg_div, div_left_inj' hr, neg_eq_iff_eq_neg, abs_eq_neg_self]
    exact crossTerm_nonpos_iff hfar (sub_pos.1 hside)
  · rw [hcos, sin_arccos_yawCosine hfar, and_iff_right rfl, div_left_inj' hr, abs_eq_self]
    exact crossTerm_nonneg_iff hfar (by linarith)

end Far

/-! ### The intersection -/

variable {origin projected : Vector3} {target : MeasuredKinematicState} {v offset time pitch : ℝ}
  {n : ℕ} {i : Intersection}

/-- **The yaw of an intersection points the barrel at the projected target** if and only if that is
not behind the axis, closer to its line than the barrel. -/
theorem intersection_pointsAt_iff
    (hproj : projectTarget origin target v offset n target.position 0 0 =
      some (projected, time, pitch))
    (hfar : origin.x ^ 2 < projected.x ^ 2 + projected.y ^ 2)
    (hi : findTargetProjectileIntersection origin target v n offset = some i) :
    PointsAt origin.x projected.x projected.y i.turretYaw ↔
      InSight origin.x projected.x projected.y := by
  simp only [findTargetProjectileIntersection, hproj] at hi
  split_ifs at hi
  obtain ⟨w, hw, rfl⟩ := Option.map_eq_some_iff.1 hi
  exact turretYaw_pointsAt_iff hfar hw

/-- A target five metres behind the axis of a turret whose barrel is on the right of it. -/
theorem intersection_behind :
    ∃ i time pitch,
      projectTarget ⟨0.045, 0, 0⟩ ⟨⟨0, -5, 0⟩, ⟨0, 0, 0⟩, ⟨0, 0, 0⟩⟩ 30 0 3 ⟨0, -5, 0⟩ 0 0 =
        some (⟨0, -5, 0⟩, time, pitch) ∧
      findTargetProjectileIntersection ⟨0.045, 0, 0⟩ ⟨⟨0, -5, 0⟩, ⟨0, 0, 0⟩, ⟨0, 0, 0⟩⟩ 30 3 0 =
        some i := by
  have hdist : horizontalDist ⟨0, -5, 0⟩ 0 = 5 := by
    have hsq : (0 : ℝ) ^ 2 + (-5) ^ 2 = 5 * 5 := by norm_num
    rw [horizontalDist, hsq, Real.sqrt_mul_self (by norm_num), add_zero]
  have hd : 0 < horizontalDist ⟨0, -5, 0⟩ 0 := by
    rw [hdist]
    norm_num
  have hterm : 0 ≤ sqrtTerm (horizontalDist ⟨0, -5, 0⟩ 0) (0 + 0) 30 := by
    rw [hdist]
    norm_num [sqrtTerm, ACCELERATION_GRAVITY]
  have hv : (30 : ℝ) ≠ 0 := by norm_num
  obtain ⟨time, pitch, hproj⟩ :=
    @projectTarget_of_stationary ⟨0.045, 0, 0⟩ 30 0 ⟨0, -5, 0⟩ hd hv hterm 3 0 0
  obtain ⟨i, hi⟩ := Option.isSome_iff_exists.1
    (@findTargetProjectileIntersection_isSome ⟨0.045, 0, 0⟩ 30 0 ⟨0, -5, 0⟩ 3 hd hv hterm
      (by norm_num) (by norm_num))
  exact ⟨i, time, pitch, hproj, hi⟩

theorem intersection_pointsAt_iff_behind :
    ∃ i, findTargetProjectileIntersection ⟨0.045, 0, 0⟩ ⟨⟨0, -5, 0⟩, ⟨0, 0, 0⟩, ⟨0, 0, 0⟩⟩ 30 3 0 =
        some i ∧
      (PointsAt 0.045 0 (-5) i.turretYaw ↔ InSight 0.045 0 (-5)) := by
  obtain ⟨i, time, pitch, hproj, hi⟩ := intersection_behind
  exact ⟨i, hi, intersection_pointsAt_iff hproj (by norm_num) hi⟩

/-- The barrel does not point at it. -/
theorem not_pointsAt_behind :
    ∃ i, findTargetProjectileIntersection ⟨0.045, 0, 0⟩ ⟨⟨0, -5, 0⟩, ⟨0, 0, 0⟩, ⟨0, 0, 0⟩⟩ 30 3 0 =
        some i ∧
      (0.045 : ℝ) ^ 2 < 0 ^ 2 + (-5) ^ 2 ∧ ¬ PointsAt 0.045 0 (-5) i.turretYaw := by
  obtain ⟨i, time, pitch, hproj, hi⟩ := intersection_behind
  have hfar : (0.045 : ℝ) ^ 2 < 0 ^ 2 + (-5) ^ 2 := by norm_num
  refine ⟨i, hi, hfar, fun hpoints => ?_⟩
  simp only [findTargetProjectileIntersection, hproj] at hi
  split_ifs at hi
  obtain ⟨w, hw, rfl⟩ := Option.map_eq_some_iff.1 hi
  have hin : InSight 0.045 0 (-5) := (turretYaw_pointsAt_iff hfar hw).1 hpoints
  norm_num [InSight] at hin

end

end Aimbots.Ballistics
