import Aimbots.Library.Numerals
import Aimbots.RefSystem.RefHelperTurreted
import Aimbots.Tap.Timeout
import Aimbots.Utils.SmoothPid

/-!
# `barrel_manager.cpp`: the carriage that swaps the barrels

`BarrelManagerSubsystem` over the constants of a robot that swaps its barrels: no robot's file
defines them, so they are a parameter.  What the motor reports is an argument of the functions that
ask it.
-/

namespace Aimbots.BarrelManager

open RefSystem Utils
open scoped Numerals

/-- `barrelSide`. -/
inductive BarrelSide
  | LEFT
  | RIGHT
  | CURRENT
deriving DecidableEq, Repr

/-- The constants that `BARREL_SWAP_COMPATIBLE` stands for, and the tolerance that the referee
helper is constructed with. -/
structure BarrelSwapConstants where
  LEAD_SCREW_TICKS_PER_MM : ℚ
  LEAD_SCREW_CALI_OUTPUT : ℚ
  LEAD_SCREW_CURRENT_SPIKE_TORQUE : ℚ
  HARD_STOP_OFFSET : ℚ
  BARREL_SWAP_DISTANCE_MM : ℚ
  BARRELS_ALIGNED_TOLERANCE : ℚ
  BARREL_SWAP_POSITION_PID_CONFIG : SmoothPidConfig
  BARREL_IDS : Fin 2 → BarrelID
  safetyHeatTolerance : ℤ

/-- What the swap motor reports. -/
structure SwapMotor where
  isMotorOnline : Bool
  encoderUnwrapped : Int64
  torque : Int16
  shaftRPM : Int16
deriving DecidableEq

/-- `abs(swapMotor.getTorque())`, in `int`. -/
def SwapMotor.absTorque (motor : SwapMotor) : ℚ := motor.torque.toInt.natAbs

/-- The position of the carriage that the encoder stands for, in millimetres. -/
def SwapMotor.position (k : BarrelSwapConstants) (motor : SwapMotor) : ℚ :=
  motor.encoderUnwrapped.toInt / k.LEAD_SCREW_TICKS_PER_MM

/-- The data members of `BarrelManagerSubsystem`, and the output its motor was given last.  The
array `limitLRPositions` is its two elements. -/
structure BarrelManagerSubsystem where
  currentBarrelSide : BarrelSide
  currentSpikeTimer : Tap.Timeout
  currentSwapMotorPosition : ℚ
  desiredSwapMotorOutput : ℚ
  limitLeftPosition : ℚ
  limitRightPosition : ℚ
  currentBarrel : BarrelID
  swapMotorOutput : ℚ
deriving DecidableEq

namespace BarrelManagerSubsystem

/-- The constructor; the members that it does not initialise are arguments. -/
def construct (k : BarrelSwapConstants) (currentBarrel : BarrelID)
    (currentSwapMotorPosition desiredSwapMotorOutput : ℚ) : BarrelManagerSubsystem where
  currentBarrelSide := .LEFT
  currentSpikeTimer := .stopped
  currentSwapMotorPosition
  desiredSwapMotorOutput
  limitLeftPosition := 0
  limitRightPosition := k.BARREL_SWAP_DISTANCE_MM
  currentBarrel
  swapMotorOutput := 0

/-- `initialize`. -/
def init (m : BarrelManagerSubsystem) (now : UInt32) : BarrelManagerSubsystem :=
  { m with
    swapMotorOutput := 0
    currentSpikeTimer := (m.currentSpikeTimer.execute now).2 }

/-- `getSideInMM`. -/
def getSideInMM (m : BarrelManagerSubsystem) (side : BarrelSide) : ℚ :=
  if side = .LEFT then m.limitLeftPosition else m.limitRightPosition

/-- `isBarrelAligned`. -/
def isBarrelAligned (k : BarrelSwapConstants) (m : BarrelManagerSubsystem) : Bool :=
  decide (|m.currentSwapMotorPosition - m.getSideInMM m.currentBarrelSide| ≤
    k.BARRELS_ALIGNED_TOLERANCE)

/-- `BARREL_IDS[side]`; the side `CURRENT` is no index. -/
def BarrelSide.barrelID (k : BarrelSwapConstants) : BarrelSide → Option BarrelID
  | .LEFT => some (k.BARREL_IDS 0)
  | .RIGHT => some (k.BARREL_IDS 1)
  | .CURRENT => none

/-- `refresh`. -/
def refresh (k : BarrelSwapConstants) (m : BarrelManagerSubsystem) (motor : SwapMotor) :
    BarrelManagerSubsystem :=
  if motor.isMotorOnline then
    let m := { m with
      currentSwapMotorPosition := motor.position k
      swapMotorOutput := m.desiredSwapMotorOutput }
    if m.isBarrelAligned k then
      { m with currentBarrel := (BarrelSide.barrelID k m.currentBarrelSide).getD m.currentBarrel }
    else m
  else m

/-- `setMotorOutput`. -/
def setMotorOutput (m : BarrelManagerSubsystem) (output : ℚ) : BarrelManagerSubsystem :=
  { m with desiredSwapMotorOutput := output }

/-- `getMotorOutput()`. -/
def getMotorOutput (motor : SwapMotor) : ℚ :=
  if motor.isMotorOnline then motor.shaftRPM.toInt else 0

/-- `findZeroPosition`: whether the stop is found, and the members it leaves. -/
def findZeroPosition (k : BarrelSwapConstants) (stopSideToFind : BarrelSide) (now : UInt32)
    (motor : SwapMotor) (m : BarrelManagerSubsystem) : Bool × BarrelManagerSubsystem :=
  let m := m.setMotorOutput
    (if stopSideToFind = .LEFT then -k.LEAD_SCREW_CALI_OUTPUT else k.LEAD_SCREW_CALI_OUTPUT)
  let timer := m.currentSpikeTimer.execute now
  let m := { m with currentSpikeTimer := timer.2 }
  if timer.1 ∧ k.LEAD_SCREW_CURRENT_SPIKE_TORQUE ≤ motor.absTorque then
    let m := m.setMotorOutput 0
    let position := m.currentSwapMotorPosition
    if stopSideToFind = .LEFT then
      (true, { m with
        limitLeftPosition := position + k.HARD_STOP_OFFSET
        limitRightPosition := position + k.HARD_STOP_OFFSET + k.BARREL_SWAP_DISTANCE_MM })
    else
      (true, { m with
        limitRightPosition := position - k.HARD_STOP_OFFSET
        limitLeftPosition := position - k.HARD_STOP_OFFSET - k.BARREL_SWAP_DISTANCE_MM })
  else if k.LEAD_SCREW_CURRENT_SPIKE_TORQUE ≤ motor.absTorque ∧
      (m.currentSpikeTimer.isExpired now ∨ m.currentSpikeTimer.isStopped) then
    (false, { m with currentSpikeTimer := m.currentSpikeTimer.restart now 500 })
  else (false, m)

/-- `getSide`. -/
def getSide (m : BarrelManagerSubsystem) : BarrelSide := m.currentBarrelSide

/-- `toggleSide`. -/
def toggleSide (m : BarrelManagerSubsystem) : BarrelManagerSubsystem :=
  { m with currentBarrelSide := if m.currentBarrelSide = .LEFT then .RIGHT else .LEFT }

variable {k : BarrelSwapConstants}

/-- After two toggles the carriage is where it has to be exactly if it was before. -/
@[simp] theorem isBarrelAligned_toggleSide_toggleSide (m : BarrelManagerSubsystem) :
    m.toggleSide.toggleSide.isBarrelAligned k = m.isBarrelAligned k := by
  cases hside : m.currentBarrelSide <;>
    simp [isBarrelAligned, toggleSide, getSideInMM, hside]

/-- After a refresh the carriage is aligned as its position, which is a new one if the motor is
online, is within tolerance of the selected side. -/
theorem isBarrelAligned_refresh (m : BarrelManagerSubsystem) (motor : SwapMotor) :
    (m.refresh k motor).isBarrelAligned k =
      if motor.isMotorOnline then
        decide (|motor.position k - m.getSideInMM m.currentBarrelSide| ≤
          k.BARRELS_ALIGNED_TOLERANCE)
      else m.isBarrelAligned k := by
  simp only [refresh]
  split_ifs <;> rfl

end BarrelManagerSubsystem

end Aimbots.BarrelManager
