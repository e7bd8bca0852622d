import Aimbots.BarrelManager.BarrelManagerSubsystem

/-!
# `barrel_swap_command.cpp`: calibration, and manual and automatic swaps

`execute` first decides whether it calibrates and sets `barrelMovingFlag`; only then, when it does
not calibrate, may it select the other side, once for the key R and once for the heat of the barrel.
`flagRight_execute_iff` says when the flag is right nevertheless.
-/

namespace Aimbots.BarrelManager

open RefSystem Utils

/-- The data members of `BarrelSwapCommand`. -/
structure BarrelSwapCommand where
  swapMotorPID : SmoothPIDWrapper
  gPressedTimeout : Tap.Timeout
  isGPressed : Bool
  barrelCalibratingFlag : Bool
  wasRPressed : Bool
  wasLogicSwitchRequested : Bool

/-- The command, its subsystem and the two flags that it shares by reference. -/
structure BarrelSwapState where
  command : BarrelSwapCommand
  barrelManager : BarrelManagerSubsystem
  barrelMovingFlag : Bool
  barrelCaliDoneFlag : Bool

/-- What one `execute` asks the clock, the keys, the motor and the referee for. -/
structure SwapInputs where
  now : UInt32
  keyG : Bool
  keyR : Bool
  motor : SwapMotor
  turretData : TurretData

namespace BarrelSwapCommand

/-- The constructor. -/
def construct (k : BarrelSwapConstants) (lastTime error prevError errorDerivative : ℚ) :
    BarrelSwapCommand where
  swapMotorPID :=
    .construct k.BARREL_SWAP_POSITION_PID_CONFIG lastTime error prevError errorDerivative
  gPressedTimeout := .stopped
  isGPressed := false
  barrelCalibratingFlag := true
  wasRPressed := false
  wasLogicSwitchRequested := false

/-- The first part of `execute`: G, held for a second, and a calibration that is not done set
`barrelCalibratingFlag`. -/
def requestCalibration (c : BarrelSwapCommand) (barrelCaliDoneFlag : Bool) (inp : SwapInputs) :
    BarrelSwapCommand :=
  let gPressedTimeout :=
    if inp.keyG && !c.isGPressed then c.gPressedTimeout.restart inp.now 1000 else c.gPressedTimeout
  let isGPressed := inp.keyG
  let expired := gPressedTimeout.execute inp.now
  { c with
    gPressedTimeout := expired.2
    isGPressed
    barrelCalibratingFlag :=
      c.barrelCalibratingFlag || expired.1 && isGPressed || !barrelCaliDoneFlag }

end BarrelSwapCommand

namespace BarrelSwapState

/-- The referee helper, which refers to the same current barrel. -/
def refHelper (s : BarrelSwapState) (turretData : TurretData) : RefereeHelperTurreted :=
  ⟨turretData, s.barrelManager.currentBarrel⟩

/-- The controller moves the carriage towards the selected side. -/
def runSwapMotor (s : BarrelSwapState) (inp : SwapInputs) : BarrelSwapState :=
  let positionControllerError :=
    s.barrelManager.getSideInMM s.barrelManager.getSide - s.barrelManager.currentSwapMotorPosition
  let swapMotorPID := s.command.swapMotorPID.runController inp.now positionControllerError
    (BarrelManagerSubsystem.getMotorOutput inp.motor)
  { s with
    command := { s.command with swapMotorPID }
    barrelManager := s.barrelManager.setMotorOutput swapMotorPID.getOutput }

/-- R was released: the other side is selected. -/
def swapByKey (s : BarrelSwapState) (inp : SwapInputs) : BarrelSwapState :=
  let wasRPressed := s.command.wasRPressed || inp.keyR
  if wasRPressed && !inp.keyR then
    { s with
      command := { s.command with wasRPressed := false }
      barrelManager := s.barrelManager.toggleSide }
  else { s with command := { s.command with wasRPressed } }

/-- The barrel is too hot and no swap for that is going on: the other side is selected. -/
def swapByHeat (k : BarrelSwapConstants) (s : BarrelSwapState) (inp : SwapInputs) :
    BarrelSwapState :=
  let wasLogicSwitchRequested :=
    s.command.wasLogicSwitchRequested && !s.barrelManager.isBarrelAligned k
  if !(s.refHelper inp.turretData).canCurrBarrelShootSafely k.safetyHeatTolerance &&
      !wasLogicSwitchRequested then
    { s with
      command := { s.command with wasLogicSwitchRequested := true }
      barrelManager := s.barrelManager.toggleSide }
  else { s with command := { s.command with wasLogicSwitchRequested } }

/-- `execute`. -/
def execute (k : BarrelSwapConstants) (s : BarrelSwapState) (inp : SwapInputs) :
    BarrelSwapState :=
  let command := s.command.requestCalibration s.barrelCaliDoneFlag inp
  let barrelMovingFlag := command.barrelCalibratingFlag || !s.barrelManager.isBarrelAligned k
  let s := { s with command, barrelMovingFlag }
  let s :=
    if !command.barrelCalibratingFlag then ((s.runSwapMotor inp).swapByKey inp).swapByHeat k inp
    else
      let zero := s.barrelManager.findZeroPosition k .LEFT inp.now inp.motor
      { s with
        command := { s.command with barrelCalibratingFlag := !zero.1 }
        barrelManager := zero.2 }
  { s with barrelCaliDoneFlag := !s.command.barrelCalibratingFlag }

/-- `end`. -/
def finish (s : BarrelSwapState) : BarrelSwapState :=
  { s with barrelManager := s.barrelManager.setMotorOutput 0 }

variable {k : BarrelSwapConstants} {s : BarrelSwapState} {inp : SwapInputs}

/-! ### When the flag is right -/

/-- `execute` calibrates: it did so before, or it is told to now. -/
def Calibrates (s : BarrelSwapState) (inp : SwapInputs) : Prop :=
  (s.command.requestCalibration s.barrelCaliDoneFlag inp).barrelCalibratingFlag = true

instance (s : BarrelSwapState) (inp : SwapInputs) : Decidable (s.Calibrates inp) :=
  inferInstanceAs (Decidable (_ = _))

/-- The key R was pressed, and is not any more. -/
def ReleasesR (s : BarrelSwapState) (inp : SwapInputs) : Prop :=
  s.command.wasRPressed = true ∧ inp.keyR = false

instance (s : BarrelSwapState) (inp : SwapInputs) : Decidable (s.ReleasesR inp) :=
  inferInstanceAs (Decidable (_ ∧ _))

/-- No side is selected that the carriage is not at: `execute` calibrates, or the carriage is not
aligned to begin with, or it is aligned with either side, or no toggle is made, or two are. -/
def KeepsAligned (k : BarrelSwapConstants) (s : BarrelSwapState) (inp : SwapInputs) : Prop :=
  s.Calibrates inp ∨ s.barrelManager.isBarrelAligned k = false ∨
    s.barrelManager.toggleSide.isBarrelAligned k = true ∨
    (¬ s.ReleasesR inp ∧
      (s.refHelper inp.turretData).canCurrBarrelShootSafely k.safetyHeatTolerance = true) ∨
    (s.ReleasesR inp ∧
      (s.refHelper inp.turretData).canCurrBarrelShootSafely k.safetyHeatTolerance = false ∧
      s.command.wasLogicSwitchRequested = false)

instance (k : BarrelSwapConstants) (s : BarrelSwapState) (inp : SwapInputs) :
    Decidable (s.KeepsAligned k inp) :=
  inferInstanceAs (Decidable (_ ∨ _))

/-- The flag is right: it is set while the command calibrates or the carriage is not aligned with
the selected side. -/
def FlagRight (k : BarrelSwapConstants) (s : BarrelSwapState) : Prop :=
  s.command.barrelCalibratingFlag = true ∨ s.barrelManager.isBarrelAligned k = false →
    s.barrelMovingFlag = true

instance (k : BarrelSwapConstants) (s : BarrelSwapState) : Decidable (s.FlagRight k) :=
  inferInstanceAs (Decidable (_ → _))

/-- An `execute` that calibrates sets the flag. -/
theorem barrelMovingFlag_of_calibrates (h : s.Calibrates inp) :
    (s.execute k inp).barrelMovingFlag = true := by
  have hcal : (s.command.requestCalibration s.barrelCaliDoneFlag inp).barrelCalibratingFlag =
      true :=
    h
  simp only [execute, hcal]
  rfl

/-- Where the carriage is with respect to the selected side after the two toggles. -/
theorem isBarrelAligned_swap (k : BarrelSwapConstants) (s : BarrelSwapState) (inp : SwapInputs) :
    ((s.swapByKey inp).swapByHeat k inp).barrelManager.isBarrelAligned k =
      let here := s.barrelManager.isBarrelAligned k
      let there := s.barrelManager.toggleSide.isBarrelAligned k
      let safe := (s.refHelper inp.turretData).canCurrBarrelShootSafely k.safetyHeatTolerance
      if s.command.wasRPressed && !inp.keyR then
        if !safe && !(s.command.wasLogicSwitchRequested && !there) then here else there
      else if !safe && !(s.command.wasLogicSwitchRequested && !here) then there else here := by
  have hcond : ((s.command.wasRPressed || inp.keyR) && !inp.keyR) =
      (s.command.wasRPressed && !inp.keyR) := by
    cases s.command.wasRPressed <;> cases inp.keyR <;> rfl
  simp only [swapByKey, hcond]
  cases s.command.wasRPressed && !inp.keyR with
  | true =>
    simp only [if_true, swapByHeat]
    split_ifs with hsafe hsafe' hsafe'
    · exact BarrelManagerSubsystem.isBarrelAligned_toggleSide_toggleSide _
    · exact absurd hsafe hsafe'
    · exact absurd hsafe' hsafe
    · rfl
  | false =>
    simp only [Bool.false_eq_true, if_false, swapByHeat]
    split_ifs with hsafe hsafe' hsafe'
    · rfl
    · exact absurd hsafe hsafe'
    · exact absurd hsafe' hsafe
    · rfl

/-- An `execute` that does not calibrate: the flag is that of the state before it, and the toggles
come after. -/
theorem execute_of_not_calibrates (h : ¬ s.Calibrates inp) :
    (s.execute k inp).command.barrelCalibratingFlag = false ∧
      (s.execute k inp).barrelMovingFlag = !s.barrelManager.isBarrelAligned k ∧
      (s.execute k inp).barrelManager.isBarrelAligned k =
        ((s.swapByKey inp).swapByHeat k inp).barrelManager.isBarrelAligned k := by
  have hcal : (s.command.requestCalibration s.barrelCaliDoneFlag inp).barrelCalibratingFlag =
      false := Bool.eq_false_iff.2 h
  rw [isBarrelAligned_swap]
  refine ⟨?_, ?_, ?_⟩
  · simp only [execute, hcal, Bool.not_false, if_true, swapByHeat, swapByKey, runSwapMotor]
    split_ifs <;> rfl
  · simp only [execute, hcal, Bool.not_false, if_true, swapByHeat, swapByKey, runSwapMotor]
    split_ifs <;> rfl
  · simp only [execute, hcal, Bool.not_false, if_true]
    rw [isBarrelAligned_swap]
    rfl

/-- **The flag is right after an `execute` exactly if no side is selected that the carriage is not
at.** -/
theorem flagRight_execute_iff (k : BarrelSwapConstants) (s : BarrelSwapState) (inp : SwapInputs) :
    (s.execute k inp).FlagRight k ↔ s.KeepsAligned k inp := by
  by_cases hcal : s.Calibrates inp
  · exact ⟨fun _ => Or.inl hcal, fun _ _ => barrelMovingFlag_of_calibrates hcal⟩
  · obtain ⟨hflag, hmoving, haligned⟩ := execute_of_not_calibrates (k := k) hcal
    rw [FlagRight, hflag, hmoving, haligned, isBarrelAligned_swap, KeepsAligned, ReleasesR]
    -- what is left is a table of six truth values
    generalize s.barrelManager.isBarrelAligned k = here
    generalize s.barrelManager.toggleSide.isBarrelAligned k = there
    generalize (s.refHelper inp.turretData).canCurrBarrelShootSafely k.safetyHeatTolerance = safe
    generalize s.command.wasLogicSwitchRequested = requested
    generalize s.command.wasRPressed = pressed
    generalize inp.keyR = keyR
    simp only [hcal, false_or]
    cases here <;> cases there <;> cases safe <;> cases requested <;> cases pressed <;>
      cases keyR <;> decide

end BarrelSwapState

end Aimbots.BarrelManager
