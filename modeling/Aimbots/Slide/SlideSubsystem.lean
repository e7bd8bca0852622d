import Aimbots.Library.Rounding
import Aimbots.Library.TruncatedRemainder
import Aimbots.Utils.SmoothPidDerivative
import Mathlib.Algebra.Order.Floor.Ring
import Mathlib.Data.Rat.Floor

/-!
# `slide.cpp`

The slide holds two carriages at positions in metres.  `updateMotorPositionPID` divides the
unwrapped value of the encoder by the ticks of a revolution, and both are integers: the controller
sees the whole revolutions that lie between the carriage and the zero of the encoder, in `float`.
`positionError_eq` says by how much the error is then off: by the ticks behind the last whole
revolution, and by what the three operations on floats round.  `seesPosition_iff` says when that is
at most a tick; the two revolutions next to the zero are one position.
-/

namespace Aimbots.Slide

open Utils

/-- `float`. -/
abbrev float : ℚ → ℚ := Format.binary32.round

/-- `MotorIndex`. -/
inductive MotorIndex
  | X
  | Z
deriving DecidableEq, Repr

/-- `DJIMotor::ENC_RESOLUTION`, in the type of the division. -/
def ENC_RESOLUTION : Int64 := 8192

/-- `SLIDE_METERS_PER_REVS_RATIOS`. -/
def SLIDE_METERS_PER_REVS_RATIOS : MotorIndex → ℚ
  | .X => float (float 0.254 / 46.0)
  | .Z => float (float 0.184 / 130.0)

/-- `SLIDE_MAX_POSITIONS_METERS`. -/
def SLIDE_MAX_POSITIONS_METERS : MotorIndex → ℚ
  | .X => float 0.254
  | .Z => float 0.18

/-- `std::clamp`. -/
def clamp (v lo hi : ℚ) : ℚ := if v < lo then lo else if hi < v then hi else v

/-- `positionRevs`: the division is one of integers, and its result is then a float. -/
def positionRevs (encoderUnwrapped : Int64) : ℚ :=
  float (encoderUnwrapped / ENC_RESOLUTION).toInt

/-- `SlideSubsystem`, with the wrappers of its controllers. -/
structure SlideSubsystem where
  motorPIDs : MotorIndex → SmoothPIDWrapper
  targetPosesMeters : MotorIndex → ℚ
  desiredOutputs : MotorIndex → ℤ

namespace SlideSubsystem

/-- `setTargetPositionMeters`. -/
def setTargetPositionMeters (s : SlideSubsystem) (x z : ℚ) : SlideSubsystem :=
  { s with
    targetPosesMeters := fun
      | .X => clamp x 0 (SLIDE_MAX_POSITIONS_METERS .X)
      | .Z => clamp z 0 (SLIDE_MAX_POSITIONS_METERS .Z) }

/-- The error that `updateMotorPositionPID` computes. -/
def positionError (s : SlideSubsystem) (motorIdx : MotorIndex) (encoderUnwrapped : Int64) : ℚ :=
  let positionMeters :=
    float (positionRevs encoderUnwrapped * SLIDE_METERS_PER_REVS_RATIOS motorIdx)
  float (s.targetPosesMeters motorIdx - positionMeters)

/-- `updateMotorPositionPID`, at a reading of the clock and one of the motor's encoder. -/
def updateMotorPositionPID (s : SlideSubsystem) (now : UInt32) (motorIdx : MotorIndex)
    (encoderUnwrapped : Int64) : SlideSubsystem :=
  let err := s.positionError motorIdx encoderUnwrapped
  let motorPID := (s.motorPIDs motorIdx).runControllerDerivateError now err
  { s with
    motorPIDs := Function.update s.motorPIDs motorIdx motorPID
    desiredOutputs := Function.update s.desiredOutputs motorIdx (truncToInt motorPID.getOutput) }

/-- `updateAllPIDs`. -/
def updateAllPIDs (s : SlideSubsystem) (now : UInt32) (encoderUnwrapped : MotorIndex → Int64) :
    SlideSubsystem :=
  (s.updateMotorPositionPID now .X (encoderUnwrapped .X)).updateMotorPositionPID now .Z
    (encoderUnwrapped .Z)

end SlideSubsystem

/-! ### The position that the controller sees -/

/-- A tick of the encoder, in metres. -/
def tick (motorIdx : MotorIndex) : ℚ := SLIDE_METERS_PER_REVS_RATIOS motorIdx / 8192

/-- The distance from the carriage to the target. -/
def distanceToTarget (s : SlideSubsystem) (motorIdx : MotorIndex) (encoderUnwrapped : Int64) : ℚ :=
  s.targetPosesMeters motorIdx -
    encoderUnwrapped.toInt / 8192 * SLIDE_METERS_PER_REVS_RATIOS motorIdx

theorem tick_pos (motorIdx : MotorIndex) : 0 < tick motorIdx := by
  cases motorIdx <;> decide +kernel

/-- What the floats round away of the error of a target, at a whole number of revolutions. -/
def roundingError (motorIdx : MotorIndex) (target : ℚ) (revs : ℤ) : ℚ :=
  float (target - float (float revs * SLIDE_METERS_PER_REVS_RATIOS motorIdx)) -
    (target - revs * SLIDE_METERS_PER_REVS_RATIOS motorIdx)

theorem positionRevs_eq (e : Int64) : positionRevs e = float (e.toInt.tdiv 8192 : ℤ) := by
  rw [positionRevs, Int64.toInt_div_of_ne_right e ENC_RESOLUTION (by decide)]
  rfl

/-- **The error is off** by the ticks that the encoder is past a whole revolution, on the side away
from its zero, and by what is rounded. -/
theorem positionError_eq (s : SlideSubsystem) (motorIdx : MotorIndex) (e : Int64) :
    s.positionError motorIdx e =
      distanceToTarget s motorIdx e + ((e.toInt.tmod 8192 : ℤ) * tick motorIdx +
        roundingError motorIdx (s.targetPosesMeters motorIdx) (e.toInt.tdiv 8192)) := by
  have hsplit : (e.toInt : ℚ) = (e.toInt.tmod 8192 : ℤ) + 8192 * (e.toInt.tdiv 8192 : ℤ) := by
    exact_mod_cast (Int.tmod_add_mul_tdiv e.toInt 8192).symm
  rw [SlideSubsystem.positionError, positionRevs_eq, distanceToTarget, tick, roundingError, hsplit]
  ring

/-- A product and a difference in `float`, below a power of two. -/
theorem abs_float_sub_float_sub_le {target position : ℚ} {b : ℤ} (hb : 0 < b)
    (h : |target| + |position| + 2 ^ (b - 24) < 2 ^ b) :
    |float (target - float position) - (target - position)| ≤ 2 ^ (b - 24) := by
  have hunit : (0 : ℚ) < 2 ^ (b - 24) := by positivity
  have hmin : Format.binary32.minExponent ≤ b - Format.binary32.precision := by
    show (-149 : ℤ) ≤ b - (24 : ℕ)
    omega
  have hposition : |position| < 2 ^ b := by
    have htarget := abs_nonneg target
    linarith
  have hproduct : |float position - position| ≤ 2 ^ (b - 24) / 2 :=
    Format.abs_round_sub_le_of_lt hb hposition hmin
  have hfar : |target - float position| < 2 ^ b := by
    have hsplit : target - float position = target - position - (float position - position) := by
      ring
    have hsub := abs_sub (target - position) (float position - position)
    have hsub' := abs_sub target position
    rw [hsplit]
    linarith
  have hdifference : |float (target - float position) - (target - float position)| ≤
      2 ^ (b - 24) / 2 := Format.abs_round_sub_le_of_lt hb hfar hmin
  calc |float (target - float position) - (target - position)|
      = |float (target - float position) - (target - float position) -
          (float position - position)| := by ring_nf
    _ ≤ |float (target - float position) - (target - float position)| +
          |float position - position| := abs_sub _ _
    _ ≤ 2 ^ (b - 24) / 2 + 2 ^ (b - 24) / 2 := add_le_add hdifference hproduct
    _ = 2 ^ (b - 24) := by ring

/-- Within a thousand revolutions less than a tick is rounded away. -/
theorem abs_roundingError_lt (motorIdx : MotorIndex) {target : ℚ}
    (htarget : target ∈ Set.Icc 0 (SLIDE_MAX_POSITIONS_METERS motorIdx)) {revs : ℤ}
    (hrevs : |revs| ≤ 1000) : |roundingError motorIdx target revs| < tick motorIdx := by
  -- the positions are below 8 and 2 metres
  obtain ⟨b, hb, hfar, htick⟩ : ∃ b : ℤ, 0 < b ∧
      SLIDE_MAX_POSITIONS_METERS motorIdx + 1000 * SLIDE_METERS_PER_REVS_RATIOS motorIdx +
        2 ^ (b - 24) < (2 : ℚ) ^ b ∧ (2 : ℚ) ^ (b - 24) < tick motorIdx := by
    cases motorIdx with
    | X => exact ⟨3, by decide, by decide +kernel, by decide +kernel⟩
    | Z => exact ⟨1, by decide, by decide +kernel, by decide +kernel⟩
  have hratio : 0 < SLIDE_METERS_PER_REVS_RATIOS motorIdx := by
    cases motorIdx <;> decide +kernel
  have hrevs' : |(revs : ℚ)| ≤ 1000 := by exact_mod_cast hrevs
  have hposition : |(revs : ℚ) * SLIDE_METERS_PER_REVS_RATIOS motorIdx| ≤
      1000 * SLIDE_METERS_PER_REVS_RATIOS motorIdx := by
    rw [abs_mul, abs_of_pos hratio]
    exact mul_le_mul_of_nonneg_right hrevs' hratio.le
  rw [roundingError, show float revs = revs from
    Format.round_intCast (hrevs.trans_lt (by norm_num))]
  refine (abs_float_sub_float_sub_le hb ?_).trans_lt htick
  rw [abs_of_nonneg htarget.1]
  have hmax := htarget.2
  linarith

theorem clamp_mem {v lo hi : ℚ} (h : lo ≤ hi) : clamp v lo hi ∈ Set.Icc lo hi := by
  unfold clamp
  split_ifs with hlow hhigh
  · exact ⟨le_rfl, h⟩
  · exact ⟨h, le_rfl⟩
  · exact ⟨not_lt.1 hlow, not_lt.1 hhigh⟩

theorem targetPosesMeters_mem (s : SlideSubsystem) (x z : ℚ) (motorIdx : MotorIndex) :
    (s.setTargetPositionMeters x z).targetPosesMeters motorIdx ∈
      Set.Icc 0 (SLIDE_MAX_POSITIONS_METERS motorIdx) := by
  cases motorIdx <;> exact clamp_mem (by decide +kernel)

/-- The controller of a motor is given the error of its position. -/
theorem getError_updateMotorPositionPID (s : SlideSubsystem) (now : UInt32) (motorIdx : MotorIndex)
    (e : Int64) :
    ((s.updateMotorPositionPID now motorIdx e).motorPIDs motorIdx).getError =
      s.positionError motorIdx e := by
  simp [SlideSubsystem.updateMotorPositionPID, SmoothPIDWrapper.getError,
    SmoothPIDWrapper.runControllerDerivateError]

theorem motorPIDs_updateMotorPositionPID_of_ne (s : SlideSubsystem) (now : UInt32)
    {motorIdx other : MotorIndex} (h : other ≠ motorIdx) (e : Int64) :
    (s.updateMotorPositionPID now motorIdx e).motorPIDs other = s.motorPIDs other :=
  Function.update_of_ne h _ _

theorem positionError_updateMotorPositionPID (s : SlideSubsystem) (now : UInt32)
    (motorIdx other : MotorIndex) (e e' : Int64) :
    (s.updateMotorPositionPID now motorIdx e).positionError other e' =
      s.positionError other e' := by
  simp only [SlideSubsystem.positionError, SlideSubsystem.updateMotorPositionPID]

/-- `updateAllPIDs` gives each controller the error of its own motor. -/
theorem getError_updateAllPIDs (s : SlideSubsystem) (now : UInt32)
    (encoderUnwrapped : MotorIndex → Int64) (motorIdx : MotorIndex) :
    ((s.updateAllPIDs now encoderUnwrapped).motorPIDs motorIdx).getError =
      s.positionError motorIdx (encoderUnwrapped motorIdx) := by
  cases motorIdx with
  | X =>
    rw [SlideSubsystem.updateAllPIDs, motorPIDs_updateMotorPositionPID_of_ne _ _ (by decide),
      getError_updateMotorPositionPID]
  | Z =>
    rw [SlideSubsystem.updateAllPIDs, getError_updateMotorPositionPID,
      positionError_updateMotorPositionPID]

/-- **An error sees the position** at a distance from the target if it is the distance within a
tick: so it is zero only within a tick of the target, and has the sign of the distance beyond. -/
structure SeesPosition (motorIdx : MotorIndex) (distance err : ℚ) : Prop where
  within : |err - distance| ≤ tick motorIdx
  zero : err = 0 → |distance| ≤ tick motorIdx
  before : tick motorIdx < distance → 0 < err
  beyond : distance < -tick motorIdx → err < 0

/-- What is said of the sign follows from what is said of the size. -/
theorem seesPosition_iff_within (motorIdx : MotorIndex) (distance err : ℚ) :
    SeesPosition motorIdx distance err ↔ |err - distance| ≤ tick motorIdx := by
  refine ⟨SeesPosition.within, fun h => ⟨h, ?_, ?_, ?_⟩⟩
  · rintro rfl
    rwa [zero_sub, abs_neg] at h
  · intro hbefore
    have := (abs_le.1 h).1
    linarith
  · intro hbeyond
    have := (abs_le.1 h).2
    linarith

/-- **When the controller sees the position**, for any targets: the ticks that the encoder is past a
whole revolution, counted from its zero, and what is rounded at that revolution are at most a tick
together.  Within a thousand revolutions less than a tick is rounded: at a whole revolution the
position is seen, and two or more ticks past it is not. -/
theorem seesPosition_iff (s : SlideSubsystem) (x z : ℚ) (now : UInt32) (motorIdx : MotorIndex)
    (e : Int64) :
    let set := s.setTargetPositionMeters x z
    let sees := SeesPosition motorIdx (distanceToTarget set motorIdx e)
      ((set.updateMotorPositionPID now motorIdx e).motorPIDs motorIdx).getError
    let revs := e.toInt.tdiv 8192
    let ticks := e.toInt.tmod 8192
    (sees ↔ |(ticks : ℚ) * tick motorIdx +
      roundingError motorIdx (set.targetPosesMeters motorIdx) revs| ≤ tick motorIdx) ∧
    (|revs| ≤ 1000 → (ticks = 0 → sees) ∧ (sees → |ticks| ≤ 1)) := by
  intro set sees revs ticks
  have htick := tick_pos motorIdx
  have hsees : sees ↔ |(ticks : ℚ) * tick motorIdx +
      roundingError motorIdx (set.targetPosesMeters motorIdx) revs| ≤ tick motorIdx := by
    rw [show sees ↔ _ from seesPosition_iff_within motorIdx _ _, getError_updateMotorPositionPID,
      positionError_eq, add_sub_cancel_left]
  refine ⟨hsees, fun hrange => ?_⟩
  have hround := abs_roundingError_lt motorIdx (targetPosesMeters_mem s x z motorIdx) hrange
  refine ⟨fun hzero => hsees.2 ?_, fun h => ?_⟩
  · rw [hzero, Int.cast_zero, zero_mul, zero_add]
    exact hround.le
  · -- two ticks, of which less than one is rounded away
    by_contra! hticks
    have htwo : (2 : ℚ) ≤ |(ticks : ℚ)| := by exact_mod_cast hticks
    have hfar : 2 * tick motorIdx ≤ |(ticks : ℚ) * tick motorIdx| := by
      rw [abs_mul, abs_of_pos htick]
      exact mul_le_mul_of_nonneg_right htwo htick.le
    have hsplit := abs_sub ((ticks : ℚ) * tick motorIdx +
      roundingError motorIdx (set.targetPosesMeters motorIdx) revs)
      (roundingError motorIdx (set.targetPosesMeters motorIdx) revs)
    rw [add_sub_cancel_right] at hsplit
    have hwithin := hsees.1 h
    have hround' : |roundingError motorIdx (set.targetPosesMeters motorIdx) revs| <
      tick motorIdx := hround
    linarith

/-- The carriage is half a revolution past its target, and the error is zero. -/
theorem seesPosition_half :
    ¬ SeesPosition .X (distanceToTarget (SlideSubsystem.setTargetPositionMeters
        ⟨fun _ => .construct {} 0 0 0 0, fun _ => 0, fun _ => 0⟩ 0 0) .X 4096) 0 ∧
      ((SlideSubsystem.updateMotorPositionPID (SlideSubsystem.setTargetPositionMeters
        ⟨fun _ => .construct {} 0 0 0 0, fun _ => 0, fun _ => 0⟩ 0 0) 10 .X 4096).motorPIDs
          .X).getError = 0 := by
  refine ⟨fun h => ?_, by decide +kernel⟩
  exact absurd (h.zero rfl) (by decide +kernel)

end Aimbots.Slide
