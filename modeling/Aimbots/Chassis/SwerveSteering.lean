import Aimbots.Library.TruncatedRemainder
import Aimbots.Utils.SmoothPid
import Mathlib.Data.Int.ModEq
import Mathlib.Data.Rat.Floor

/-!
# `chassis.cpp`: the error of a wheel's controller

The error of a wheel that is driven is a difference of speeds.  That of a wheel that is steered is a
difference of encoder positions, and `updateMotorVelocityPID` is to go the short way round when it
is more than half a turn.  It takes a turn off an error above half a turn; but below minus half a
turn it subtracts the error from the turn where it should add it, and the wheel is steered the long
way, to a position that mirrors the target (`steeringError_short_iff`).
-/

namespace Aimbots.Chassis

open Utils

/-- `MotorOnWheelIndex`. -/
inductive MotorOnWheelIndex
  | DRIVER
  | YAW
deriving DecidableEq, Repr

/-- What a motor of a wheel reads. -/
structure WheelReading where
  shaftRPM : Int16
  encoderWrapped : ℤ
deriving DecidableEq, Repr

/-- The error of a wheel that is steered: `err_int`, if `err` is more than half a turn. -/
def wrapSteeringError (err : ℚ) : ℚ :=
  if |err| > 4096 then
    let err_int : ℤ :=
      (((-1 * truncToInt err).tdiv |truncToInt err|) * (8192 - truncToInt err)).tmod 8192
    err_int * 1
  else err

/-- `err` of `updateMotorVelocityPID`. -/
def wheelError (targetRPM : ℚ) (reading : WheelReading) : MotorOnWheelIndex → ℚ
  | .DRIVER => targetRPM - reading.shaftRPM.toInt
  | .YAW => wrapSteeringError (targetRPM - reading.encoderWrapped)

/-- `updateMotorVelocityPID`: the controller, and the element of `desiredOutputs`. -/
def updateMotorVelocityPID (velocityPID : SmoothPIDWrapper) (now : UInt32) (targetRPM : ℚ)
    (reading : WheelReading) (MotorPerWheelIdx : MotorOnWheelIndex) : SmoothPIDWrapper × ℚ :=
  let velocityPID :=
    velocityPID.runControllerDerivateError now (wheelError targetRPM reading MotorPerWheelIdx)
  (velocityPID, velocityPID.getOutput)

/-- The target of a wheel that is steered, as `calculateSwerve` takes it of an angle in encoder
ticks. -/
def swerveTarget (yaw : ℤ) : ℤ := yaw.tmod 8191

/-! ### The error in ticks -/

/-- The error for a difference of integer positions. -/
def steeringError (d : ℤ) : ℤ :=
  if 4096 < d then (d - 8192).tmod 8192
  else if d < -4096 then (8192 - d).tmod 8192
  else d

/-- An error of an integer number of ticks is wrapped to one. -/
theorem wrapSteeringError_intCast (d : ℤ) : wrapSteeringError d = steeringError d := by
  have htrunc : truncToInt (d : ℚ) = d := by
    unfold truncToInt
    rw [Int.floor_intCast, Int.ceil_intCast, ite_self]
  have habs : |(d : ℚ)| > 4096 ↔ |d| > 4096 := by
    rw [gt_iff_lt, gt_iff_lt, ← Int.cast_abs]
    exact_mod_cast Iff.rfl
  simp only [wrapSteeringError, steeringError, htrunc, habs, mul_one]
  rcases lt_or_ge 4096 d with hlarge | hsmall
  · have hself : (-1 * d).tdiv |d| = -1 := by
      rw [abs_of_pos (by omega), neg_one_mul, Int.neg_tdiv, Int.tdiv_self (by omega)]
    have hgt : |d| > 4096 := by rwa [abs_of_pos (by omega)]
    rw [if_pos hgt, if_pos hlarge, hself, neg_one_mul, neg_sub]
  · rw [if_neg (not_lt.2 hsmall)]
    by_cases hlow : d < -4096
    · have hself : (-1 * d).tdiv |d| = 1 := by
        rw [abs_of_neg (by omega), neg_one_mul, Int.tdiv_self (by omega)]
      have hgt : |d| > 4096 := by rw [abs_of_neg (by omega)]; omega
      rw [if_pos hgt, if_pos hlow, hself, one_mul]
    · have hle : ¬ |d| > 4096 := not_lt.2 (abs_le.2 ⟨by omega, hsmall⟩)
      rw [if_neg hle, if_neg hlow]

/-- The differences of which the controller is given the short way: up to half a turn either way;
above that, less than one turn, or up to half a turn more than whole turns; and below, multiples of
half a turn. -/
def GoesShortWay (d : ℤ) : Prop :=
  |d| ≤ 4096 ∨ 4096 < d ∧ (d < 8192 ∨ d % 8192 ≤ 4096) ∨ d < -4096 ∧ 4096 ∣ d

theorem steeringError_spec (d : ℤ) :
    steeringError d ≡ d [ZMOD 8192] ∧ |steeringError d| ≤ 4096 ↔ GoesShortWay d := by
  unfold GoesShortWay steeringError Int.ModEq
  rw [abs_le, abs_le]
  rcases lt_or_ge 4096 d with hlarge | hsmall
  · rw [if_pos hlarge, Int.tmod_eq_emod]
    split_ifs <;> omega
  · rw [if_neg (not_lt.2 hsmall)]
    by_cases hlow : d < -4096
    · rw [if_pos hlow, Int.tmod_eq_emod_of_nonneg (by omega)]
      omega
    · rw [if_neg hlow]
      omega

/-- **When a wheel is steered the short way.**  The error that the controller is given is the
difference of target and position up to whole turns, and at most half a turn, exactly if the
difference is one of `GoesShortWay`. -/
theorem steeringError_short_iff (velocityPID : SmoothPIDWrapper) (now : UInt32) (target current : ℤ)
    (shaftRPM : Int16) :
    (∃ e : ℤ, (updateMotorVelocityPID velocityPID now target ⟨shaftRPM, current⟩ .YAW).1.error = e ∧
        e ≡ target - current [ZMOD 8192] ∧ |e| ≤ 4096) ↔
      GoesShortWay (target - current) := by
  have herror : (updateMotorVelocityPID velocityPID now target ⟨shaftRPM, current⟩ .YAW).1.error =
      steeringError (target - current) := by
    rw [← wrapSteeringError_intCast]
    push_cast
    rfl
  rw [← steeringError_spec, herror]
  constructor
  · rintro ⟨e, he, hshort⟩
    rwa [Int.cast_inj.1 he]
  · exact fun hshort => ⟨_, rfl, hshort⟩

/-- **The targets of `calculateSwerve`**: a wheel whose encoder is within one turn is steered the
short way exactly if its target is at most half a turn below, or one turn or one and a half. -/
theorem goesShortWay_swerveTarget_iff (yaw : ℤ) {current : ℤ} (hnonneg : 0 ≤ current)
    (hlt : current < 8192) :
    GoesShortWay (swerveTarget yaw - current) ↔
      -4096 ≤ swerveTarget yaw - current ∨ swerveTarget yaw - current = -8192 ∨
        swerveTarget yaw - current = -12288 := by
  have htarget : swerveTarget yaw < 8191 := Int.tmod_lt_of_pos yaw (by decide)
  have htarget' : -8191 < swerveTarget yaw := Int.lt_tmod_of_pos yaw (by decide)
  rw [GoesShortWay, abs_le]
  omega

/-- A wheel at 5000 ticks with its target at 100 is steered 4900 ticks forward, to 1708 ticks. -/
theorem steered_to_mirror :
    (updateMotorVelocityPID (.construct {} 0 0 0 0) 2 100 ⟨0, 5000⟩ .YAW).1.error = 4900 ∧
      ¬ (4900 : ℤ) ≡ 100 - 5000 [ZMOD 8192] ∧ (3292 : ℤ) ≡ 100 - 5000 [ZMOD 8192] := by
  decide +kernel

end Aimbots.Chassis
