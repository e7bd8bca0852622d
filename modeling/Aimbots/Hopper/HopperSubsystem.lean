import Mathlib.Tactic.NormNum
import Aimbots.Utils.SmoothPid

/-!
# `hopper.cpp`: the lid of the hopper

The subsystem keeps a state beside the angle that it passes to the servo; nothing ties the two
together, a command has to set both.  What the constants of a robot say about the lid is a
`HopperConstants`, which carries the facts that make the two angles two positions of the servo.
-/

namespace Aimbots.Hopper

open Utils

/-- `HopperState`. -/
inductive HopperState
  | CLOSED
  | OPEN
deriving DecidableEq, Repr

/-- The constants of a robot's hopper. -/
structure HopperConstants where
  HOPPER_MIN_ANGLE : ℚ
  HOPPER_MAX_ANGLE : ℚ
  HOPPER_MIN_PWM : ℚ
  HOPPER_MAX_PWM : ℚ
  HOPPER_OPEN_ANGLE : ℚ
  HOPPER_CLOSED_ANGLE : ℚ
  pwm_lt : HOPPER_MIN_PWM < HOPPER_MAX_PWM
  open_mem : HOPPER_OPEN_ANGLE ∈ Set.Ioo HOPPER_MIN_ANGLE HOPPER_MAX_ANGLE
  closed_mem : HOPPER_CLOSED_ANGLE ∈ Set.Ioo HOPPER_MIN_ANGLE HOPPER_MAX_ANGLE
  open_ne_closed : HOPPER_OPEN_ANGLE ≠ HOPPER_CLOSED_ANGLE

/-- The robots whose constants define `HOPPER_LID_COMPATIBLE`. -/
inductive Robot
  | sentry
  | standard
deriving DecidableEq, Repr

/-- The hopper constants of each robot. -/
def Robot.constants : Robot → HopperConstants
  | .sentry => {
      HOPPER_MIN_ANGLE := 0
      HOPPER_MAX_ANGLE := 270
      HOPPER_MIN_PWM := 0.1325
      HOPPER_MAX_PWM := 0.85
      HOPPER_OPEN_ANGLE := 10
      HOPPER_CLOSED_ANGLE := 80
      pwm_lt := by norm_num
      open_mem := by norm_num
      closed_mem := by norm_num
      open_ne_closed := by norm_num }
  | .standard => {
      HOPPER_MIN_ANGLE := 0
      HOPPER_MAX_ANGLE := 270
      HOPPER_MIN_PWM := 0.1325
      HOPPER_MAX_PWM := 0.85
      HOPPER_OPEN_ANGLE := 33
      HOPPER_CLOSED_ANGLE := 77
      pwm_lt := by norm_num
      open_mem := by norm_num
      closed_mem := by norm_num
      open_ne_closed := by norm_num }

/-- `REMAP`. -/
def REMAP (x inMin inMax outMin outMax : ℚ) : ℚ :=
  (x - inMin) * (outMax - outMin) / (inMax - inMin) + outMin

/-- What the commands read and write of `HopperSubsystem`, and what they have commanded: the angle
that `setHopperAngle` was last called with, and what it passed to the servo. -/
structure HopperSubsystem where
  hopperState : HopperState
  desiredAngle : Option ℚ
  targetPwm : Option ℚ
deriving DecidableEq, Repr

namespace HopperSubsystem

variable (c : HopperConstants)

/-- The constructor: closed, though nothing has been commanded. -/
def construct : HopperSubsystem := ⟨.CLOSED, none, none⟩

/-- The argument of `setTargetPwm` for an angle. -/
def pwmOfAngle (desiredAngle : ℚ) : ℚ :=
  REMAP (limitVal desiredAngle c.HOPPER_MIN_ANGLE c.HOPPER_MAX_ANGLE) c.HOPPER_MIN_ANGLE
    c.HOPPER_MAX_ANGLE c.HOPPER_MIN_PWM c.HOPPER_MAX_PWM

/-- `setHopperAngle`. -/
def setHopperAngle (desiredAngle : ℚ) (h : HopperSubsystem) : HopperSubsystem :=
  { h with desiredAngle := some desiredAngle, targetPwm := some (pwmOfAngle c desiredAngle) }

/-- `setHopperState`. -/
def setHopperState (newState : HopperState) (h : HopperSubsystem) : HopperSubsystem :=
  { h with hopperState := newState }

/-- `isHopperOpen`. -/
def isHopperOpen (h : HopperSubsystem) : Bool := decide (h.hopperState = .OPEN)

/-- The state says of the commanded angle whether it is the open one. -/
def Matches (h : HopperSubsystem) : Prop :=
  h.isHopperOpen = true ↔ h.desiredAngle = some c.HOPPER_OPEN_ANGLE

instance (h : HopperSubsystem) : Decidable (h.Matches c) :=
  inferInstanceAs (Decidable (_ ↔ _))

variable {c}

@[simp] theorem matches_open (h : HopperSubsystem) :
    ((h.setHopperAngle c c.HOPPER_OPEN_ANGLE).setHopperState .OPEN).Matches c := by
  simp [Matches, isHopperOpen, setHopperAngle, setHopperState]

@[simp] theorem matches_closed (h : HopperSubsystem) :
    ((h.setHopperAngle c c.HOPPER_CLOSED_ANGLE).setHopperState .CLOSED).Matches c := by
  simp [Matches, isHopperOpen, setHopperAngle, setHopperState, c.open_ne_closed.symm]

/-- The lid is sent one way and the state says the other. -/
theorem not_matches_closed_open (h : HopperSubsystem) :
    ¬ ((h.setHopperAngle c c.HOPPER_CLOSED_ANGLE).setHopperState .OPEN).Matches c := by
  simp [Matches, isHopperOpen, setHopperAngle, setHopperState, c.open_ne_closed.symm]

theorem not_matches_open_closed (h : HopperSubsystem) :
    ¬ ((h.setHopperAngle c c.HOPPER_OPEN_ANGLE).setHopperState .CLOSED).Matches c := by
  simp [Matches, isHopperOpen, setHopperAngle, setHopperState]

end HopperSubsystem

end Aimbots.Hopper
