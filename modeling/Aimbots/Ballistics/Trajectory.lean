import Mathlib.Analysis.SpecialFunctions.Complex.Arg
import Mathlib.Analysis.SpecialFunctions.Trigonometric.Arctan
import Mathlib.Analysis.SpecialFunctions.Trigonometric.Inverse

/-!
# `ballistics_solver.cpp`: from a target to an aiming solution

`computeTravelTime` and `findTargetProjectileIntersection` over the real numbers.  `none` is the
answer `false`; it is also what a result that is not a number comes to, since the code asks `isnan`
of every result before it answers `true`.
-/

namespace Aimbots.Ballistics

noncomputable section

/-- `modm::Vector3f`. -/
@[ext] structure Vector3 where
  x : ℝ
  y : ℝ
  z : ℝ

/-- `getLength()`. -/
def Vector3.getLength (v : Vector3) : ℝ := √(v.x * v.x + v.y * v.y + v.z * v.z)

/-- `MeasuredKinematicState`. -/
structure MeasuredKinematicState where
  position : Vector3
  velocity : Vector3
  acceleration : Vector3

/-- `quadraticKinematicProjection`. -/
def quadraticKinematicProjection (dt s v a : ℝ) : ℝ := s + v * dt + 0.5 * a * dt ^ 2

/-- `projectForward`. -/
def MeasuredKinematicState.projectForward (m : MeasuredKinematicState) (dt : ℝ) : Vector3 where
  x := quadraticKinematicProjection dt m.position.x m.velocity.x m.acceleration.x
  y := quadraticKinematicProjection dt m.position.y m.velocity.y m.acceleration.y
  z := quadraticKinematicProjection dt m.position.z m.velocity.z m.acceleration.z

/-- `ACCELERATION_GRAVITY`. -/
def ACCELERATION_GRAVITY : ℝ := 9.80665

/-- `atan2`. -/
def atan2 (y x : ℝ) : ℝ := Complex.arg ⟨x, y⟩

/-- `compareFloatClose`. -/
def compareFloatClose (val1 val2 epsilon : ℝ) : Prop := |val1 - val2| ≤ epsilon

def PLATE_WIDTH_TOLERANCE : ℝ := 0.15

def PLATE_HEIGHT_TOLERANCE : ℝ := 0.1

/-- `withinAimingTolerance`. -/
def withinAimingTolerance (yawAngleError pitchAngleError targetDistance : ℝ) : Prop :=
  ¬ targetDistance < 0 ∧
    |yawAngleError| < atan2 PLATE_WIDTH_TOLERANCE (2 * targetDistance) ∧
    |pitchAngleError| < atan2 PLATE_HEIGHT_TOLERANCE (2 * targetDistance)

/-- An aim without error is within tolerance of every target that is not behind. -/
theorem withinAimingTolerance_zero {targetDistance : ℝ} (h : 0 ≤ targetDistance) :
    withinAimingTolerance 0 0 targetDistance := by
  have hpos : ∀ {y x : ℝ}, 0 < y → 0 < atan2 y x := fun {y x} hy => by
    have hnonneg : 0 ≤ atan2 y x := Complex.arg_nonneg_iff.2 hy.le
    refine lt_of_le_of_ne hnonneg fun hzero => ?_
    have him : y = 0 := (Complex.arg_eq_zero_iff.1 hzero.symm).2
    exact hy.ne' him
  rw [withinAimingTolerance, abs_zero]
  exact ⟨not_lt.2 h, hpos (by norm_num [PLATE_WIDTH_TOLERANCE]),
    hpos (by norm_num [PLATE_HEIGHT_TOLERANCE])⟩

/-- The horizontal distance that `computeTravelTime` works with. -/
def horizontalDist (targetPosition : Vector3) (pitchAxisOffset : ℝ) : ℝ :=
  √(targetPosition.x ^ 2 + targetPosition.y ^ 2) + pitchAxisOffset

/-- The radicand of the pitch equation; `z` is the target's height above the barrel. -/
def sqrtTerm (horizontalDist z bulletVelocity : ℝ) : ℝ :=
  (bulletVelocity ^ 2) ^ 2 -
    ACCELERATION_GRAVITY *
      (ACCELERATION_GRAVITY * horizontalDist ^ 2 + 2 * z * bulletVelocity ^ 2)

open Classical in
/-- `computeTravelTime`: the travel time and the pitch of the turret. -/
def computeTravelTime (barrelOriginFromGimbalOrigin targetPosition : Vector3)
    (bulletVelocity pitchAxisOffset : ℝ) : Option (ℝ × ℝ) :=
  let d := horizontalDist targetPosition pitchAxisOffset
  let z := targetPosition.z + barrelOriginFromGimbalOrigin.z
  let term := sqrtTerm d z bulletVelocity
  if term < 0 then none
  else
    let turretPitch := atan2 (bulletVelocity ^ 2 - √term) (ACCELERATION_GRAVITY * d)
    if compareFloatClose turretPitch 0 1e-2 then
      let term := bulletVelocity ^ 2 - 2 * ACCELERATION_GRAVITY * z
      if term < 0 then none else some ((bulletVelocity - √term) / ACCELERATION_GRAVITY, turretPitch)
    else if bulletVelocity * Real.cos turretPitch = 0 then
      -- only with a distance of zero, and zero by zero is not a number
      none
    else some (d / (bulletVelocity * Real.cos turretPitch), turretPitch)

/-- The loop of `findTargetProjectileIntersection`: the position that the target is projected to
with the last travel time, that time, and the last pitch. -/
def projectTarget (barrelOriginFromGimbalOrigin : Vector3) (target : MeasuredKinematicState)
    (bulletVelocity pitchAxisOffset : ℝ) : ℕ → Vector3 → ℝ → ℝ → Option (Vector3 × ℝ × ℝ)
  | 0, projected, time, pitch => some (projected, time, pitch)
  | n + 1, projected, _, _ =>
    match computeTravelTime barrelOriginFromGimbalOrigin projected bulletVelocity
      pitchAxisOffset with
    | none => none
    | some (time, pitch) =>
      projectTarget barrelOriginFromGimbalOrigin target bulletVelocity pitchAxisOffset n
        (target.projectForward time) time pitch

open Classical in
/-- The yaw at which the barrel, `bx` to the side of the gimbal's origin, points at `(x, y)`. -/
def turretYaw (bx x y : ℝ) : Option ℝ :=
  if x ^ 2 + y ^ 2 - bx ^ 2 < 0 ∨ x ^ 2 + y ^ 2 = 0 then none
  else
    let c := (y * √(x ^ 2 + y ^ 2 - bx ^ 2) + bx * x) / (x ^ 2 + y ^ 2)
    if 1 < |c| then none
    else
      let yaw := Real.arccos c
      if x - bx > 0 then some (yaw * -1) else some yaw

/-- What `findTargetProjectileIntersection` writes to its out parameters. -/
structure Intersection where
  turretPitch : ℝ
  turretYaw : ℝ
  projectedTravelTime : ℝ

open Classical in
/-- `findTargetProjectileIntersection`; the out parameters are zero before. -/
def findTargetProjectileIntersection (barrelOriginFromGimbalOrigin : Vector3)
    (target : MeasuredKinematicState) (bulletVelocity : ℝ) (numIterations : ℕ)
    (pitchAxisOffset : ℝ) : Option Intersection :=
  if target.position.x = 0 ∧ target.position.y = 0 ∧ target.position.z = 0 then none
  else
    match projectTarget barrelOriginFromGimbalOrigin target bulletVelocity pitchAxisOffset
      numIterations target.position 0 0 with
    | none => none
    | some (projected, time, pitch) =>
      (turretYaw barrelOriginFromGimbalOrigin.x projected.x projected.y).map
        fun yaw => ⟨pitch, yaw, time⟩

/-! ### Targets within reach -/

variable {origin target : Vector3} {v offset : ℝ}

theorem gravity_pos : 0 < ACCELERATION_GRAVITY := by norm_num [ACCELERATION_GRAVITY]

theorem atan2_eq_arctan {x : ℝ} (hx : 0 < x) (y : ℝ) : atan2 y x = Real.arctan (y / x) := by
  have habs : |atan2 y x| < Real.pi / 2 := Complex.abs_arg_lt_pi_div_two_iff.2 (.inl hx)
  rw [abs_lt] at habs
  have htan : Real.tan (atan2 y x) = y / x := Complex.tan_arg _
  rw [← htan, Real.arctan_tan habs.1 habs.2]

/-- Where the radicand is not negative, that of the shot straight up is not either. -/
theorem levelTerm_pos {d z : ℝ} (hd : 0 < d) (hv : v ≠ 0) (hterm : 0 ≤ sqrtTerm d z v) :
    0 < v ^ 2 - 2 * ACCELERATION_GRAVITY * z := by
  have hv2 : 0 < v ^ 2 := by positivity
  have hsq : 0 < ACCELERATION_GRAVITY ^ 2 * d ^ 2 :=
    mul_pos (pow_pos gravity_pos 2) (pow_pos hd 2)
  have hprod : 0 < v ^ 2 * (v ^ 2 - 2 * ACCELERATION_GRAVITY * z) := by
    rw [sqrtTerm] at hterm
    linarith
  exact (pos_iff_pos_of_mul_pos hprod).1 hv2

/-- A target whose radicand is not negative is within reach. -/
theorem computeTravelTime_isSome (hd : 0 < horizontalDist target offset) (hv : v ≠ 0)
    (hterm : 0 ≤ sqrtTerm (horizontalDist target offset) (target.z + origin.z) v) :
    (computeTravelTime origin target v offset).isSome := by
  simp only [computeTravelTime]
  rw [if_neg (not_lt.2 hterm), atan2_eq_arctan (mul_pos gravity_pos hd)]
  split_ifs with hclose hterm' hcos
  · exact absurd hterm' (not_lt.2 (levelTerm_pos hd hv hterm).le)
  · rfl
  · exact absurd hcos (mul_ne_zero hv (Real.cos_arctan_pos _).ne')
  · rfl

/-- There is a yaw for every target that is not closer than the barrel is to the side. -/
theorem turretYaw_isSome {bx x y : ℝ} (hpos : x ^ 2 + y ^ 2 ≠ 0) (hfar : bx ^ 2 ≤ x ^ 2 + y ^ 2) :
    (turretYaw bx x y).isSome := by
  have hr : 0 < x ^ 2 + y ^ 2 := lt_of_le_of_ne (by positivity) hpos.symm
  have hs : √(x ^ 2 + y ^ 2 - bx ^ 2) ^ 2 = x ^ 2 + y ^ 2 - bx ^ 2 := Real.sq_sqrt (by linarith)
  have hc : |(y * √(x ^ 2 + y ^ 2 - bx ^ 2) + bx * x) / (x ^ 2 + y ^ 2)| ≤ 1 := by
    rw [abs_div, abs_of_pos hr, div_le_one hr]
    refine abs_le_of_sq_le_sq ?_ hr.le
    nlinarith [sq_nonneg (y * bx - √(x ^ 2 + y ^ 2 - bx ^ 2) * x)]
  have hin : ¬ (x ^ 2 + y ^ 2 - bx ^ 2 < 0 ∨ x ^ 2 + y ^ 2 = 0) := by
    rintro (h | h)
    · linarith
    · exact hpos h
  simp only [turretYaw]
  rw [if_neg hin, if_neg (not_lt.2 hc)]
  split_ifs <;> rfl

/-- A target that does not move stays where it is. -/
theorem projectForward_of_stationary (p : Vector3) (dt : ℝ) :
    (⟨p, ⟨0, 0, 0⟩, ⟨0, 0, 0⟩⟩ : MeasuredKinematicState).projectForward dt = p := by
  ext <;> simp [MeasuredKinematicState.projectForward, quadraticKinematicProjection]

/-- The loop leaves a target within reach that does not move where it is. -/
theorem projectTarget_of_stationary {p : Vector3} (hd : 0 < horizontalDist p offset) (hv : v ≠ 0)
    (hterm : 0 ≤ sqrtTerm (horizontalDist p offset) (p.z + origin.z) v) (n : ℕ) (time pitch : ℝ) :
    ∃ time' pitch', projectTarget origin ⟨p, ⟨0, 0, 0⟩, ⟨0, 0, 0⟩⟩ v offset n p time pitch =
      some (p, time', pitch') := by
  induction n generalizing time pitch with
  | zero => exact ⟨time, pitch, rfl⟩
  | succ n ih =>
    obtain ⟨⟨t, q⟩, ht⟩ := Option.isSome_iff_exists.1 (computeTravelTime_isSome hd hv hterm)
    obtain ⟨t', q', h⟩ := ih t q
    exact ⟨t', q', by rw [projectTarget, ht]; simp only [projectForward_of_stationary, h]⟩

/-- **A target that does not move and is within reach has a solution.** -/
theorem findTargetProjectileIntersection_isSome {p : Vector3} (n : ℕ)
    (hd : 0 < horizontalDist p offset) (hv : v ≠ 0)
    (hterm : 0 ≤ sqrtTerm (horizontalDist p offset) (p.z + origin.z) v)
    (hpos : p.x ^ 2 + p.y ^ 2 ≠ 0) (hfar : origin.x ^ 2 ≤ p.x ^ 2 + p.y ^ 2) :
    (findTargetProjectileIntersection origin ⟨p, ⟨0, 0, 0⟩, ⟨0, 0, 0⟩⟩ v n offset).isSome := by
  obtain ⟨time, pitch, h⟩ := projectTarget_of_stationary hd hv hterm n 0 0
  have hzero : ¬ (p.x = 0 ∧ p.y = 0 ∧ p.z = 0) := by
    rintro ⟨hx, hy, -⟩
    exact hpos (by rw [hx, hy]; norm_num)
  simp only [findTargetProjectileIntersection]
  rw [if_neg hzero, h]
  simpa using turretYaw_isSome hpos hfar

/-- A target whose radicand is negative is out of reach. -/
theorem findTargetProjectileIntersection_eq_none {target : MeasuredKinematicState} (n : ℕ)
    (hterm : sqrtTerm (horizontalDist target.position offset)
      (target.position.z + origin.z) v < 0) :
    findTargetProjectileIntersection origin target v (n + 1) offset = none := by
  have htime : computeTravelTime origin target.position v offset = none := by
    simp only [computeTravelTime]
    rw [if_pos hterm]
  simp only [findTargetProjectileIntersection, projectTarget, htime]
  split_ifs <;> rfl

end

end Aimbots.Ballistics
