import Aimbots.Feeder.FeederSubsystem
import Aimbots.RefSystem.RefHelperTurreted
import Aimbots.Tap.Timeout

/-!
# `barrel_swapping_feeder_command.cpp`: feeding between two swaps

The command feeds while the current barrel is not too hot and `barrelMovingFlag`, which it shares
with the command that swaps the barrels, is not set.
-/

namespace Aimbots.Feeder

open RefSystem

/-- The data members of `BarrelSwappingFeederCommand`. -/
structure BarrelSwappingFeederCommand where
  UNJAM_TIMER_MS : UInt32
  startupThreshold : Tap.Timeout
  unjamTimer : Tap.Timeout
deriving DecidableEq, Repr

namespace BarrelSwappingFeederCommand

variable {c : FeederConstants}

/-- The constructor. -/
def construct (UNJAM_TIMER_MS : UInt32) : BarrelSwappingFeederCommand :=
  ⟨UNJAM_TIMER_MS, .stopped, .stopped⟩

/-- `initialize`. -/
def init (cmd : BarrelSwappingFeederCommand) (now : UInt32) (f : FeederSubsystem c) :
    BarrelSwappingFeederCommand × FeederSubsystem c :=
  ({ cmd with
      startupThreshold := cmd.startupThreshold.restart now 500
      unjamTimer := cmd.unjamTimer.restart now 0 },
    f.forFeederMotorGroup .ALL FeederSubsystem.deactivateFeederMotor)

/-- `refHelper->canCurrBarrelShootSafely() && !barrelMovingFlag`, which `isReady` asks too. -/
def mayFeed (safetyHeatTolerance : ℤ) (refHelper : RefereeHelperTurreted)
    (barrelMovingFlag : Bool) : Bool :=
  refHelper.canCurrBarrelShootSafely safetyHeatTolerance && !barrelMovingFlag

/-- `execute`; `currentRPM` is the speed of motor 0. -/
def execute (safetyHeatTolerance : ℤ) (refHelper : RefereeHelperTurreted) (barrelMovingFlag : Bool)
    (now : UInt32) (currentRPM : ℚ) (cmd : BarrelSwappingFeederCommand) (f : FeederSubsystem c) :
    BarrelSwappingFeederCommand × FeederSubsystem c :=
  if mayFeed safetyHeatTolerance refHelper barrelMovingFlag then
    let unjam := cmd.unjamTimer.execute now
    let cmd := { cmd with unjamTimer := unjam.2 }
    let (cmd, f) :=
      if unjam.1 then
        ({ cmd with startupThreshold := cmd.startupThreshold.restart now 500 },
          f.forFeederMotorGroup .ALL FeederSubsystem.activateFeederMotor)
      else (cmd, f)
    -- the timer is asked only if the feeder stands still
    let startup :=
      if |currentRPM| ≤ 10 then cmd.startupThreshold.execute now
      else (false, cmd.startupThreshold)
    let cmd := { cmd with startupThreshold := startup.2 }
    if startup.1 then
      ({ cmd with unjamTimer := cmd.unjamTimer.restart now cmd.UNJAM_TIMER_MS },
        f.forFeederMotorGroup .ALL FeederSubsystem.unjamFeederMotor)
    else (cmd, f)
  else
    ({ cmd with unjamTimer := cmd.unjamTimer.restart now 0 },
      f.forFeederMotorGroup .ALL FeederSubsystem.deactivateFeederMotor)

/-- `end`. -/
def finish (f : FeederSubsystem c) : FeederSubsystem c :=
  f.forFeederMotorGroup .ALL FeederSubsystem.deactivateFeederMotor

/-- While the barrel moves, or is too hot, `execute` stops the feeder. -/
theorem stopped_execute_of_not_mayFeed {safetyHeatTolerance : ℤ}
    {refHelper : RefereeHelperTurreted} {barrelMovingFlag : Bool} {now : UInt32} {currentRPM : ℚ}
    {cmd : BarrelSwappingFeederCommand} {f : FeederSubsystem c}
    (h : mayFeed safetyHeatTolerance refHelper barrelMovingFlag = false) :
    (cmd.execute safetyHeatTolerance refHelper barrelMovingFlag now currentRPM f).2.Stopped := by
  rw [execute, h]
  exact FeederSubsystem.stopped_deactivate f

end BarrelSwappingFeederCommand

end Aimbots.Feeder
