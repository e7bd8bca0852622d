import Aimbots.Gimbal.GimbalSubsystem
import Aimbots.Library.Circle

/-!
# `gimbal.cpp`: the angle of the yaw axis

`refresh` takes the mean of the angles at which the yaw motors that are online see the axis, and
wraps it.  The angles that it takes the mean of are not wrapped, although their variable is called
`wrappedYawAxisAngle` and the pitch axis wraps each of its own first: motors that see the axis in
one place, but have counted different numbers of its turns, have a mean there only if their turns
have a mean that is an integer (`currentYawAxisAngle_modEq_iff`).
-/

namespace Aimbots.Gimbal

open Tap
open scoped Numerals
open Real (pi)

/-- The constants of a robot that the yaw axis uses, for `n = YAW_MOTOR_COUNT` motors. -/
structure YawConstants (n : ℕ) where
  GIMBAL_YAW_GEAR_RATIO : ℝ
  YAW_MOTOR_OFFSET_ANGLES : Fin n → ℝ

/-- The yaw angles of a `GimbalSubsystem`. -/
structure YawAxis (n : ℕ) where
  currentYawAxisAnglesByMotor : Fin n → WrappedFloat (-pi) pi
  currentYawAxisAngle : WrappedFloat (-pi) pi

namespace YawAxis

variable {n : ℕ} (c : YawConstants n)

/-- The constructor. -/
noncomputable def construct : YawAxis n := ⟨fun _ => .construct 0, .construct 0⟩

/-- `wrappedYawAxisAngle`, of one motor. -/
noncomputable def wrappedYawAxisAngle (i : Fin n) (encoder : Int64) : ℝ :=
  c.GIMBAL_YAW_GEAR_RATIO * (DJIEncoderValueToRadians encoder - c.YAW_MOTOR_OFFSET_ANGLES i)

/-- The variables of the loop over the yaw motors. -/
structure YawLoop (n : ℕ) where
  currentYawAxisAnglesByMotor : Fin n → WrappedFloat (-pi) pi
  yawOnlineCount : ℕ
  yawAxisAngleSum : ℝ

/-- The body of the loop over the yaw motors.  A motor that is offline has no encoder. -/
noncomputable def refreshYawMotor (encoders : Fin n → Option Int64) (l : YawLoop n) (i : Fin n) :
    YawLoop n :=
  match encoders i with
  | none => l
  | some encoder =>
    let angle := wrappedYawAxisAngle c i encoder
    { currentYawAxisAnglesByMotor :=
        Function.update l.currentYawAxisAnglesByMotor i
          ((l.currentYawAxisAnglesByMotor i).setWrappedValue angle)
      yawOnlineCount := l.yawOnlineCount + 1
      yawAxisAngleSum := l.yawAxisAngleSum + angle }

/-- `refresh`, the yaw axis. -/
noncomputable def refresh (s : YawAxis n) (encoders : Fin n → Option Int64) : YawAxis n :=
  let l := (List.finRange n).foldl (refreshYawMotor c encoders)
    ⟨s.currentYawAxisAnglesByMotor, 0, 0⟩
  { currentYawAxisAnglesByMotor := l.currentYawAxisAnglesByMotor
    currentYawAxisAngle :=
      if l.yawOnlineCount > 0 then
        s.currentYawAxisAngle.setWrappedValue (l.yawAxisAngleSum / l.yawOnlineCount)
      else s.currentYawAxisAngle }

/-- The motors that are online. -/
def onlineMotors (encoders : Fin n → Option Int64) : List (Fin n) :=
  (List.finRange n).filter fun i => (encoders i).isSome

/-- The axis turns that the motors which are online have counted beyond `a`, taken together. -/
def onlineTurns (encoders : Fin n → Option Int64) (turns : Fin n → ℤ) : ℤ :=
  ((onlineMotors encoders).map turns).sum

/-! ### Motors that see the axis in one place -/

variable {c} {encoders : Fin n → Option Int64} {a : ℝ} {turns : Fin n → ℤ}

/-- All motors that are online see the axis at `a`, each after its own number of turns. -/
def SeeAxisAt (c : YawConstants n) (encoders : Fin n → Option Int64) (a : ℝ) (turns : Fin n → ℤ) :
    Prop :=
  ∀ i encoder, encoders i = some encoder →
    wrappedYawAxisAngle c i encoder = a + turns i * (2 * pi)

/-- **The loop** counts the motors that are online and adds up their angles. -/
theorem foldl_refreshYawMotor (h : SeeAxisAt c encoders a turns) (motors : List (Fin n))
    (l : YawLoop n) :
    (motors.foldl (refreshYawMotor c encoders) l).yawOnlineCount =
        l.yawOnlineCount + (motors.filter fun i => (encoders i).isSome).length ∧
      (motors.foldl (refreshYawMotor c encoders) l).yawAxisAngleSum =
        l.yawAxisAngleSum + (motors.filter fun i => (encoders i).isSome).length * a +
          ((motors.filter fun i => (encoders i).isSome).map turns).sum * (2 * pi) := by
  induction motors generalizing l with
  | nil => simp
  | cons i motors ih =>
    obtain ⟨hcount, hsum⟩ := ih (refreshYawMotor c encoders l i)
    rw [List.foldl_cons, hcount, hsum, refreshYawMotor]
    cases hencoder : encoders i with
    | none => simp [hencoder]
    | some encoder =>
      simp only [hencoder, Option.isSome_some, List.filter_cons_of_pos, List.length_cons,
        List.map_cons, List.sum_cons]
      refine ⟨by omega, ?_⟩
      rw [h i encoder hencoder]
      push_cast
      ring

/-- What `refresh` makes of motors that see the axis in one place. -/
theorem currentYawAxisAngle_refresh (s : YawAxis n) (h : SeeAxisAt c encoders a turns) :
    (s.refresh c encoders).currentYawAxisAngle =
      if onlineMotors encoders = [] then s.currentYawAxisAngle
      else s.currentYawAxisAngle.setWrappedValue
        (((onlineMotors encoders).length * a + onlineTurns encoders turns * (2 * pi)) /
          (onlineMotors encoders).length) := by
  obtain ⟨hcount, hsum⟩ :=
    foldl_refreshYawMotor h (List.finRange n) ⟨s.currentYawAxisAnglesByMotor, 0, 0⟩
  rw [zero_add] at hcount hsum
  simp only [refresh, hcount, hsum, gt_iff_lt]
  rw [← onlineMotors, ← onlineTurns]
  by_cases hempty : onlineMotors encoders = []
  · simp only [hempty, List.length_nil, lt_irrefl, if_false, if_true]
  · rw [if_neg hempty, if_pos (List.length_pos_iff.2 hempty)]

/-- A value that was set between `-π` and `π` is the same angle. -/
theorem setWrappedValue_modEq_iff (w : WrappedFloat (-pi) pi) (v a : ℝ) :
    (w.setWrappedValue v).wrapped ≡ a [PMOD 2 * pi] ↔ v ≡ a [PMOD 2 * pi] := by
  have hset := w.wrapped_setWrappedValue_modEq v
  rw [sub_neg_eq_add, ← two_mul] at hset
  exact ⟨hset.symm.trans, hset.trans⟩

/-- **The mean of the yaw motors.**  If all motors that are online see the axis at `a`, `refresh`
finds it there exactly if the number of these motors divides the sum of the turns that they have
counted.  With no motor online the axis stays where it was. -/
theorem currentYawAxisAngle_modEq_iff (s : YawAxis n) (h : SeeAxisAt c encoders a turns) :
    (s.refresh c encoders).currentYawAxisAngle.wrapped ≡ a [PMOD 2 * pi] ↔
      if onlineMotors encoders = [] then s.currentYawAxisAngle.wrapped ≡ a [PMOD 2 * pi]
      else ((onlineMotors encoders).length : ℤ) ∣ onlineTurns encoders turns := by
  rw [currentYawAxisAngle_refresh s h]
  by_cases hempty : onlineMotors encoders = []
  · rw [if_pos hempty, if_pos hempty]
  · rw [if_neg hempty, if_neg hempty, setWrappedValue_modEq_iff]
    exact Circle.mean_modEq_iff Real.two_pi_pos.ne' (mt List.length_eq_zero_iff.1 hempty) a _

/-- A gear with two motors, each with its offset at zero. -/
noncomputable def twoMotorConstants : YawConstants 2 where
  GIMBAL_YAW_GEAR_RATIO := 1 / 2
  YAW_MOTOR_OFFSET_ANGLES _ := 0

/-- The second motor is two turns of its own, and one of the axis, ahead of the first. -/
def oneTurnAhead (i : Fin 2) : Option Int64 := some (if i.val = 0 then 0 else 16384)

theorem seeAxisAt_oneTurnAhead :
    SeeAxisAt twoMotorConstants oneTurnAhead 0 fun i => i.val := by
  intro i encoder h
  rw [oneTurnAhead, Option.some.injEq] at h
  subst h
  fin_cases i
  · simp [wrappedYawAxisAngle, twoMotorConstants, DJIEncoderValueToRadians]
  · have hticks : (16384 : Int64).toInt = 16384 := by decide
    simp [wrappedYawAxisAngle, twoMotorConstants, DJIEncoderValueToRadians, hticks, ENC_RESOLUTION]
    ring

theorem currentYawAxisAngle_modEq_iff_oneTurnAhead :
    SeeAxisAt twoMotorConstants oneTurnAhead 0 (fun i => i.val) ∧
      ((construct.refresh twoMotorConstants oneTurnAhead).currentYawAxisAngle.wrapped ≡ 0
          [PMOD 2 * pi] ↔
        if onlineMotors oneTurnAhead = [] then
          (construct : YawAxis 2).currentYawAxisAngle.wrapped ≡ 0 [PMOD 2 * pi]
        else ((onlineMotors oneTurnAhead).length : ℤ) ∣ onlineTurns oneTurnAhead fun i => i.val) :=
  ⟨seeAxisAt_oneTurnAhead, currentYawAxisAngle_modEq_iff construct seeAxisAt_oneTurnAhead⟩

/-- Both motors see the axis at zero, but one of them a turn later: the axis is found half a turn
away. -/
theorem oneTurnAhead_opposite :
    SeeAxisAt twoMotorConstants oneTurnAhead 0 (fun i => i.val) ∧
      ¬ (construct.refresh twoMotorConstants oneTurnAhead).currentYawAxisAngle.wrapped ≡ 0
        [PMOD 2 * pi] := by
  refine ⟨seeAxisAt_oneTurnAhead, ?_⟩
  have honline : onlineMotors oneTurnAhead ≠ [] := by decide
  have hodd : ¬ ((onlineMotors oneTurnAhead).length : ℤ) ∣
      onlineTurns oneTurnAhead fun i => i.val := by
    decide
  rw [currentYawAxisAngle_refresh construct seeAxisAt_oneTurnAhead, if_neg honline,
    setWrappedValue_modEq_iff, Circle.mean_modEq_iff Real.two_pi_pos.ne' (by decide)]
  exact hodd

end YawAxis

end Aimbots.Gimbal
