import Aimbots.Kinematics.CoordinateFrame

/-!
# `chassis.cpp`: the wheels of a mecanum chassis

`calculateHolonomic` turns a command into four wheel speeds, and `getActualVelocityChassisRelative`
turns the speeds of the wheels into the velocity of the chassis.  A chassis whose wheels turn as
they are told moves along `x` and `y` as commanded, up to the pull of a gimbal that is not at the
centre (`velocity_eq`).  Its rotation comes out multiplied by the lever arm of the wheels where it
should be divided by it: the constructor divides by `WHEELBASE_HYPOTENUSE`, which is a reciprocal
already (`velocity_commanded_iff`).
-/

namespace Aimbots.Chassis

open Matrix
open scoped Numerals
open Kinematics (toRadian)

/-- `WheelIndex`. -/
inductive WheelIndex
  | LB
  | LF
  | RF
  | RB
deriving DecidableEq, Repr

instance : Fintype WheelIndex where
  elems := {.LB, .LF, .RF, .RB}
  complete wheel := by cases wheel <;> decide

/-- `ChassisVelIndex`. -/
inductive ChassisVelIndex
  | X
  | Y
  | R
deriving DecidableEq, Repr

/-- The constants of a robot that its chassis uses. -/
structure ChassisConstants where
  WHEEL_RADIUS : ℝ
  WHEELBASE_WIDTH : ℝ
  WHEELBASE_LENGTH : ℝ
  GIMBAL_X_OFFSET : ℝ
  GIMBAL_Y_OFFSET : ℝ
  CHASSIS_GEARBOX_RATIO : ℝ
  radius_pos : 0 < WHEEL_RADIUS
  width_pos : 0 < WHEELBASE_WIDTH
  length_pos : 0 < WHEELBASE_LENGTH
  gearbox_pos : 0 < CHASSIS_GEARBOX_RATIO

/-- `limitVal`. -/
noncomputable def limitVal (val min max : ℝ) : ℝ :=
  if min > max then val
  else if val < min then min
  else if val > max then max
  else val

/-- `modm::toDegree`. -/
noncomputable def toDegree (angle : ℝ) : ℝ := angle * 180 / Real.pi

/-- `ChassisSubsystem`: what a command leaves behind. -/
structure ChassisSubsystem where
  targetRPMs : WheelIndex → ℝ
  desiredRotation : ℝ

namespace ChassisSubsystem

open WheelIndex ChassisVelIndex

variable (c : ChassisConstants)

/-- The distance from a wheel to the centre of the wheelbase. -/
noncomputable def wheelbaseCenterDist : ℝ :=
  √((c.WHEELBASE_WIDTH / 2) ^ 2 + (c.WHEELBASE_LENGTH / 2) ^ 2)

/-- The rotation ratios of the wheels, which let the chassis rotate around the gimbal. -/
noncomputable def rotationRatio : WheelIndex → ℝ
  | LF => toRadian (wheelbaseCenterDist c - c.GIMBAL_X_OFFSET - c.GIMBAL_Y_OFFSET)
  | RF => toRadian (wheelbaseCenterDist c - c.GIMBAL_X_OFFSET + c.GIMBAL_Y_OFFSET)
  | LB => toRadian (wheelbaseCenterDist c + c.GIMBAL_X_OFFSET - c.GIMBAL_Y_OFFSET)
  | RB => toRadian (wheelbaseCenterDist c + c.GIMBAL_X_OFFSET + c.GIMBAL_Y_OFFSET)

/-- The speeds of the wheels for a command, before they are limited. -/
noncomputable def wheelSpeed (x y r : ℝ) (wheel : WheelIndex) : ℝ :=
  let chassisRotateTranslated := toDegree r / wheelbaseCenterDist c
  match wheel with
  | LF => x + y + chassisRotateTranslated * rotationRatio c LF
  | RF => x - y + chassisRotateTranslated * rotationRatio c RF
  | LB => -x + y + chassisRotateTranslated * rotationRatio c LB
  | RB => -x - y + chassisRotateTranslated * rotationRatio c RB

/-- `calculateHolonomic`. -/
noncomputable def calculateHolonomic (_ : ChassisSubsystem) (x y r maxWheelSpeed : ℝ) :
    ChassisSubsystem where
  targetRPMs wheel := limitVal (wheelSpeed c x y r wheel) (-maxWheelSpeed) maxWheelSpeed
  desiredRotation := r

/-- `WHEELBASE_HYPOTENUSE`. -/
noncomputable def WHEELBASE_HYPOTENUSE : ℝ := 2 / (c.WHEELBASE_WIDTH + c.WHEELBASE_LENGTH)

/-- `wheelVelToChassisVelMat`, as the constructor fills it in. -/
noncomputable def wheelVelToChassisVelMat : Matrix ChassisVelIndex WheelIndex ℝ :=
  (c.WHEEL_RADIUS / 4) • Matrix.of fun
    | X, LF => 1
    | X, RF => 1
    | X, LB => -1
    | X, RB => -1
    | Y, LF => 1
    | Y, RF => -1
    | Y, LB => 1
    | Y, RB => -1
    | R, _ => 1 / WHEELBASE_HYPOTENUSE c

/-- `convertRawRPM`. -/
noncomputable def convertRawRPM (mat : WheelIndex → ℝ) : WheelIndex → ℝ :=
  (2 * Real.pi * c.CHASSIS_GEARBOX_RATIO / 60) • mat

/-- `getActualVelocityChassisRelative`, of wheels that turn at `shaftRPM`. -/
noncomputable def getActualVelocityChassisRelative (shaftRPM : WheelIndex → ℝ) :
    ChassisVelIndex → ℝ :=
  wheelVelToChassisVelMat c *ᵥ convertRawRPM c shaftRPM

/-! ### What the odometry sees of a command -/

/-- The speed of a wheel's surface at one turn of its motor a minute. -/
noncomputable def surfaceSpeed : ℝ :=
  c.WHEEL_RADIUS * (2 * Real.pi * c.CHASSIS_GEARBOX_RATIO / 60)

/-- The lever arm of the wheels of a mecanum chassis. -/
noncomputable def leverArm : ℝ := (c.WHEELBASE_WIDTH + c.WHEELBASE_LENGTH) / 2

/-- A vector with an entry for each component of the velocity. -/
def velocity (x y r : ℝ) : ChassisVelIndex → ℝ
  | X => x
  | Y => y
  | R => r

theorem velocity_inj {x y r x' y' r' : ℝ} :
    velocity x y r = velocity x' y' r' ↔ x = x' ∧ y = y' ∧ r = r' := by
  constructor
  · exact fun h => ⟨congrFun h X, congrFun h Y, congrFun h R⟩
  · rintro ⟨rfl, rfl, rfl⟩
    rfl

theorem surfaceSpeed_pos : 0 < surfaceSpeed c := by
  have := c.radius_pos
  have := c.gearbox_pos
  have := Real.pi_pos
  unfold surfaceSpeed
  positivity

theorem leverArm_pos : 0 < leverArm c :=
  half_pos (add_pos c.width_pos c.length_pos)

theorem wheelbaseCenterDist_pos : 0 < wheelbaseCenterDist c := by
  have := c.width_pos
  unfold wheelbaseCenterDist
  positivity

theorem one_div_WHEELBASE_HYPOTENUSE : 1 / WHEELBASE_HYPOTENUSE c = leverArm c := by
  rw [WHEELBASE_HYPOTENUSE, leverArm, one_div_div]

theorem sum_wheels (f : WheelIndex → ℝ) : ∑ wheel, f wheel = f LB + f LF + f RF + f RB := by
  rw [show (Finset.univ : Finset WheelIndex) = {LB, LF, RF, RB} from rfl]
  simp [add_assoc]

/-- The three components of the velocity, in terms of the wheels. -/
theorem getActualVelocityChassisRelative_eq (w : WheelIndex → ℝ) :
    getActualVelocityChassisRelative c w =
      velocity (surfaceSpeed c * ((w LF + w RF - w LB - w RB) / 4))
        (surfaceSpeed c * ((w LF - w RF + w LB - w RB) / 4))
        (surfaceSpeed c * ((w LF + w RF + w LB + w RB) / 4) * leverArm c) := by
  funext i
  rw [getActualVelocityChassisRelative, wheelVelToChassisVelMat, smul_mulVec, convertRawRPM,
    mulVec_smul, Pi.smul_apply, Pi.smul_apply, mulVec, dotProduct, sum_wheels]
  cases i <;>
    simp only [Matrix.of_apply, velocity, smul_eq_mul, surfaceSpeed,
      one_div_WHEELBASE_HYPOTENUSE] <;>
    ring

/-- A rotation as a wheel sees it: the conversions to degrees and back cancel. -/
theorem toDegree_mul_toRadian (r d a : ℝ) : toDegree r / d * toRadian a = r / d * a := by
  have := Real.pi_pos.ne'
  unfold toDegree toRadian
  field_simp

/-- **The velocity of a chassis whose wheels follow a command** that is not limited. -/
theorem velocity_eq (x y r : ℝ) :
    getActualVelocityChassisRelative c (wheelSpeed c x y r) =
      velocity (surfaceSpeed c * (x - r / wheelbaseCenterDist c * c.GIMBAL_X_OFFSET))
        (surfaceSpeed c * (y - r / wheelbaseCenterDist c * c.GIMBAL_Y_OFFSET))
        (surfaceSpeed c * r * leverArm c) := by
  have hr : r / wheelbaseCenterDist c * wheelbaseCenterDist c = r :=
    div_mul_cancel₀ r (wheelbaseCenterDist_pos c).ne'
  rw [getActualVelocityChassisRelative_eq, velocity_inj]
  simp only [wheelSpeed, rotationRatio, toDegree_mul_toRadian]
  refine ⟨?_, ?_, ?_⟩
  · ring
  · ring
  · linear_combination (surfaceSpeed c * leverArm c) * hr

theorem limitVal_eq {val max : ℝ} (h : |val| ≤ max) : limitVal val (-max) max = val := by
  obtain ⟨hmin, hmax⟩ := abs_le.1 h
  rw [limitVal, if_neg (not_lt.2 (hmin.trans hmax)), if_neg (not_lt.2 hmin), if_neg (not_lt.2 hmax)]

/-- The speeds of the wheels when the gimbal is at the centre. -/
theorem wheelSpeed_centred (hX : c.GIMBAL_X_OFFSET = 0) (hY : c.GIMBAL_Y_OFFSET = 0) (x y r : ℝ) :
    wheelSpeed c x y r = fun
      | LF => x + y + r
      | RF => x - y + r
      | LB => -x + y + r
      | RB => -x - y + r := by
  have hD := (wheelbaseCenterDist_pos c).ne'
  funext wheel
  cases wheel <;>
    simp [wheelSpeed, rotationRatio, toDegree_mul_toRadian, hX, hY, hD]

/-- The constants of the sentry. -/
noncomputable def sentryConstants : ChassisConstants where
  WHEEL_RADIUS := 0.07663
  WHEELBASE_WIDTH := 0.357
  WHEELBASE_LENGTH := 0.357
  GIMBAL_X_OFFSET := 0
  GIMBAL_Y_OFFSET := 0
  CHASSIS_GEARBOX_RATIO := 187 / 3591
  radius_pos := by norm_num
  width_pos := by norm_num
  length_pos := by norm_num
  gearbox_pos := by norm_num

theorem leverArm_sentryConstants : leverArm sentryConstants = 0.357 := by
  norm_num [leverArm, sentryConstants]

/-- A sentry that is told to spin in place, with 1000 revolutions a minute at its wheels. -/
noncomputable def spinningSentry : ChassisSubsystem :=
  calculateHolonomic sentryConstants ⟨0, 0⟩ 0 0 1000 8000

theorem spinningSentry_targetRPMs (wheel : WheelIndex) :
    spinningSentry.targetRPMs wheel = wheelSpeed sentryConstants 0 0 1000 wheel := by
  apply limitVal_eq
  rw [wheelSpeed_centred sentryConstants rfl rfl]
  cases wheel <;> norm_num

/-- **When the odometry sees the command**: a chassis whose wheels turn at the speeds that
`calculateHolonomic` sets, none of them limited, moves as it was told exactly if it was not told to
rotate or the lever arm of its wheels is one metre. -/
theorem velocity_commanded_iff (s : ChassisSubsystem) (x y r maxWheelSpeed : ℝ)
    (hX : c.GIMBAL_X_OFFSET = 0) (hY : c.GIMBAL_Y_OFFSET = 0)
    (hlimit : ∀ wheel,
      (s.calculateHolonomic c x y r maxWheelSpeed).targetRPMs wheel = wheelSpeed c x y r wheel) :
    getActualVelocityChassisRelative c (s.calculateHolonomic c x y r maxWheelSpeed).targetRPMs =
        velocity (surfaceSpeed c * x) (surfaceSpeed c * y) (surfaceSpeed c * r / leverArm c) ↔
      r = 0 ∨ leverArm c = 1 := by
  have hk := surfaceSpeed_pos c
  have hl := leverArm_pos c
  rw [funext hlimit, velocity_eq, hX, hY, velocity_inj, mul_zero, sub_zero, sub_zero]
  constructor
  · rintro ⟨-, -, hr⟩
    rw [eq_div_iff hl.ne'] at hr
    have hfactor : r * ((leverArm c + 1) * (leverArm c - 1)) = 0 := by
      apply mul_left_cancel₀ hk.ne'
      linear_combination hr
    rcases mul_eq_zero.1 hfactor with h | h
    · exact Or.inl h
    · rcases mul_eq_zero.1 h with h | h
      · exact absurd h (by positivity)
      · exact Or.inr (sub_eq_zero.1 h)
  · rintro (rfl | h)
    · simp
    · simp [h]

theorem velocity_commanded_iff_sentry :
    getActualVelocityChassisRelative sentryConstants spinningSentry.targetRPMs =
        velocity (surfaceSpeed sentryConstants * 0) (surfaceSpeed sentryConstants * 0)
          (surfaceSpeed sentryConstants * 1000 / leverArm sentryConstants) ↔
      (1000 : ℝ) = 0 ∨ leverArm sentryConstants = 1 :=
  velocity_commanded_iff sentryConstants ⟨0, 0⟩ 0 0 1000 8000 rfl rfl spinningSentry_targetRPMs

/-- The odometry of a sentry that spins in place does not see the rotation that was commanded. -/
theorem sentry_rotation_wrong :
    (∀ wheel, spinningSentry.targetRPMs wheel = wheelSpeed sentryConstants 0 0 1000 wheel) ∧
      getActualVelocityChassisRelative sentryConstants spinningSentry.targetRPMs ≠
        velocity (surfaceSpeed sentryConstants * 0) (surfaceSpeed sentryConstants * 0)
          (surfaceSpeed sentryConstants * 1000 / leverArm sentryConstants) := by
  refine ⟨spinningSentry_targetRPMs, fun h => ?_⟩
  rw [funext spinningSentry_targetRPMs, velocity_eq, velocity_inj, leverArm_sentryConstants] at h
  have hk := surfaceSpeed_pos sentryConstants
  have hr := h.2.2
  norm_num at hr
  linarith

end ChassisSubsystem

end Aimbots.Chassis
