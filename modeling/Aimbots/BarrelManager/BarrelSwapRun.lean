import Aimbots.BarrelManager.BarrelSwapCommand
import Aimbots.Feeder.BarrelSwappingFeederCommand
import Mathlib.Tactic.NormNum

/-!
# Feeding and swapping in one scheduler

The command that swaps the barrels and the one that feeds share `barrelMovingFlag`.  In a tick the
scheduler executes the commands in the order in which they were constructed and then refreshes the
subsystems; a run is any sequence of these calls, so that either command may come first, and may
start and end in between.

The feeder asks for the flag, which says what was the case when the swap command last looked.  The
flag is behind after an `execute` that toggles the side of an aligned carriage, and, if the feeder
comes before the swap command and is not too hot to feed, after a refresh that finds the carriage
somewhere else.
-/

namespace Aimbots.BarrelManager

open RefSystem Feeder

/-- The two commands, with their subsystems. -/
structure System (c : FeederConstants) where
  swap : BarrelSwapState
  feederCommand : BarrelSwappingFeederCommand
  feeder : FeederSubsystem c

/-- The calls that the scheduler makes. -/
inductive Event
  | swapExecute (inp : SwapInputs)
  | swapEnd
  | feederInitialize (now : UInt32)
  | feederExecute (now : UInt32) (currentRPM : ℚ) (turretData : TurretData)
  | feederEnd
  | refresh (motor : SwapMotor)

variable (k : BarrelSwapConstants) {c : FeederConstants}

/-- What one call does. -/
def step (s : System c) : Event → System c
  | .swapExecute inp => { s with swap := s.swap.execute k inp }
  | .swapEnd => { s with swap := s.swap.finish }
  | .feederInitialize now =>
    let (feederCommand, feeder) := s.feederCommand.init now s.feeder
    { s with feederCommand, feeder }
  | .feederExecute now currentRPM turretData =>
    let (feederCommand, feeder) := s.feederCommand.execute k.safetyHeatTolerance
      (s.swap.refHelper turretData) s.swap.barrelMovingFlag now currentRPM s.feeder
    { s with feederCommand, feeder }
  | .feederEnd => { s with feeder := BarrelSwappingFeederCommand.finish s.feeder }
  | .refresh motor =>
    { s with swap := { s.swap with barrelManager := s.swap.barrelManager.refresh k motor } }

/-- A sequence of calls. -/
def run (s : System c) (events : List Event) : System c := events.foldl (step k) s

/-- The robot as it is switched on: the flags and members as they are initialised, the feeder and
the numbers that are not in any state. -/
def start (currentBarrel : BarrelID) (position output lastTime error prevError errorDerivative : ℚ)
    (UNJAM_TIMER_MS : UInt32) (feeder : FeederSubsystem c) : System c where
  swap := {
    command := .construct k lastTime error prevError errorDerivative
    barrelManager := .construct k currentBarrel position output
    barrelMovingFlag := true
    barrelCaliDoneFlag := false }
  feederCommand := .construct UNJAM_TIMER_MS
  feeder := feeder

/-! ### The condition -/

/-- The current barrel can shoot safely, for some data of the referee system. -/
def canShootSafely (s : System c) (turretData : TurretData) : Bool :=
  (s.swap.refHelper turretData).canCurrBarrelShootSafely k.safetyHeatTolerance

/-- The feeder is executed while the barrel is safe, before the swap command is executed and before
the position is read again. -/
def FeederNext (safe : TurretData → Bool) : List Event → Prop
  | .feederExecute _ _ turretData :: events => safe turretData = true ∨ FeederNext safe events
  | .swapExecute _ :: _ => False
  | .refresh motor :: events => motor.isMotorOnline = false ∧ FeederNext safe events
  | _ :: events => FeederNext safe events
  | [] => False

instance decidableFeederNext (safe : TurretData → Bool) :
    ∀ events, Decidable (FeederNext safe events)
  | [] => isFalse not_false
  | .feederExecute _ _ turretData :: events =>
    let _ := decidableFeederNext safe events
    inferInstanceAs (Decidable (safe turretData = true ∨ FeederNext safe events))
  | .swapExecute _ :: _ => isFalse not_false
  | .swapEnd :: events => decidableFeederNext safe events
  | .feederInitialize _ :: events => decidableFeederNext safe events
  | .feederEnd :: events => decidableFeederNext safe events
  | .refresh motor :: events =>
    let _ := decidableFeederNext safe events
    inferInstanceAs (Decidable (motor.isMotorOnline = false ∧ FeederNext safe events))

/-- The condition on one call, and on what comes after it: an `execute` of the swap command selects
no side that the carriage is not at; and if the feeder comes next and neither the flag nor the heat
keeps it from feeding, a refresh finds the carriage within tolerance of the selected side. -/
def Condition (s : System c) (e : Event) (events : List Event) : Prop :=
  match e with
  | .swapExecute inp => s.swap.KeepsAligned k inp
  | .refresh motor =>
    FeederNext (canShootSafely k (step k s (.refresh motor))) events →
      s.swap.barrelMovingFlag = false → motor.isMotorOnline = true →
      |motor.position k - s.swap.barrelManager.getSideInMM s.swap.barrelManager.currentBarrelSide| ≤
        k.BARRELS_ALIGNED_TOLERANCE
  | _ => True

instance (s : System c) (e : Event) (events : List Event) : Decidable (Condition k s e events) :=
  match e with
  | .swapExecute inp => inferInstanceAs (Decidable (s.swap.KeepsAligned k inp))
  | .refresh _ => inferInstanceAs (Decidable (_ → _ → _ → _))
  | .swapEnd => isTrue trivial
  | .feederInitialize _ => isTrue trivial
  | .feederExecute .. => isTrue trivial
  | .feederEnd => isTrue trivial

/-- Every call of a sequence meets the condition. -/
def Meets : System c → List Event → Prop
  | _, [] => True
  | s, e :: events => Condition k s e events ∧ Meets (step k s e) events

instance decidableMeets : ∀ (events : List Event) (s : System c), Decidable (Meets k s events)
  | [], _ => isTrue trivial
  | e :: events, s =>
    let _ := decidableMeets events (step k s e)
    inferInstanceAs (Decidable (_ ∧ _))

/-- What holds before each call: if the feeder comes next and neither the flag nor the heat keeps it
from feeding, the carriage is aligned with the selected side. -/
def FlagCovers (s : System c) (events : List Event) : Prop :=
  FeederNext (canShootSafely k s) events → s.swap.barrelMovingFlag = false →
    s.swap.barrelManager.isBarrelAligned k = true

variable {k}

/-- One call that meets the condition. -/
theorem flagCovers_step {s : System c} {e : Event} {events : List Event}
    (hcovers : FlagCovers k s (e :: events)) (hcond : Condition k s e events) :
    FlagCovers k (step k s e) events := by
  intro hnext hflag
  cases e with
  | swapExecute inp =>
    have hright := (s.swap.flagRight_execute_iff k inp).2 hcond
    by_contra haligned
    have hmoving := hright (Or.inr (Bool.eq_false_iff.2 haligned))
    exact Bool.false_ne_true (hflag.symm.trans hmoving)
  | swapEnd => exact hcovers hnext hflag
  | feederInitialize now => exact hcovers hnext hflag
  | feederExecute now currentRPM turretData => exact hcovers (Or.inr hnext) hflag
  | feederEnd => exact hcovers hnext hflag
  | refresh motor =>
    show (s.swap.barrelManager.refresh k motor).isBarrelAligned k = true
    rw [BarrelManagerSubsystem.isBarrelAligned_refresh]
    split_ifs with honline
    · exact decide_eq_true (hcond hnext hflag honline)
    · -- nothing is read, and the barrel is the same
      have hoffline : motor.isMotorOnline = false := Bool.not_eq_true _ ▸ honline
      have hsame : step k s (.refresh motor) = s := by
        simp only [step, BarrelManagerSubsystem.refresh, if_neg honline]
      rw [hsame] at hnext
      exact hcovers ⟨hoffline, hnext⟩ hflag

/-- A sequence of calls that meet the condition. -/
theorem flagCovers_run {s : System c} {before after : List Event}
    (hcovers : FlagCovers k s (before ++ after)) (hmeets : Meets k s (before ++ after)) :
    FlagCovers k (run k s before) after ∧ Meets k (run k s before) after := by
  induction before generalizing s with
  | nil => exact ⟨hcovers, hmeets⟩
  | cons e before ih => exact ih (flagCovers_step hcovers hmeets.1) hmeets.2

theorem run_append_singleton (s : System c) (before : List Event) (e : Event) :
    run k s (before ++ [e]) = step k (run k s before) e := by
  simp [run]

/-- **No feeding while the barrel moves**, in a run whose calls meet the condition: after every
`execute` of the swap command the flag is right, and whenever `execute` of the feeder's command
leaves the feeder a target, the carriage is aligned with the selected side. -/
theorem feeds_only_aligned (currentBarrel : BarrelID)
    (position output lastTime error prevError errorDerivative : ℚ) (UNJAM_TIMER_MS : UInt32)
    (feeder : FeederSubsystem c) {events : List Event}
    (hmeets : Meets k (start k currentBarrel position output lastTime error prevError
      errorDerivative UNJAM_TIMER_MS feeder) events) :
    let s := start k currentBarrel position output lastTime error prevError errorDerivative
      UNJAM_TIMER_MS feeder
    (∀ before inp after, events = before ++ .swapExecute inp :: after →
      (run k s (before ++ [.swapExecute inp])).swap.FlagRight k) ∧
    ∀ before now currentRPM turretData after,
      events = before ++ .feederExecute now currentRPM turretData :: after →
      ¬ (run k s (before ++ [.feederExecute now currentRPM turretData])).feeder.Stopped →
      (run k s
        (before ++ [.feederExecute now currentRPM turretData])).swap.barrelManager.isBarrelAligned
        k = true := by
  intro s
  -- the flag is set to begin with
  have hstart : FlagCovers k s events := fun _ h => Bool.noConfusion h
  constructor
  · rintro before inp after rfl
    obtain ⟨-, hcond, -⟩ := flagCovers_run hstart hmeets
    rw [run_append_singleton]
    exact ((run k s before).swap.flagRight_execute_iff k inp).2 hcond
  · rintro before now currentRPM turretData after rfl hturns
    obtain ⟨hcovers, -⟩ := flagCovers_run hstart hmeets
    rw [run_append_singleton] at hturns ⊢
    have hmayFeed : BarrelSwappingFeederCommand.mayFeed k.safetyHeatTolerance
        ((run k s before).swap.refHelper turretData) (run k s before).swap.barrelMovingFlag =
          true := by
      by_contra hgate
      exact hturns (BarrelSwappingFeederCommand.stopped_execute_of_not_mayFeed
        (Bool.not_eq_true _ ▸ hgate))
    obtain ⟨hsafe, hflag⟩ := Bool.and_eq_true_iff.1 hmayFeed
    exact hcovers (Or.inl hsafe) (Bool.not_eq_true' _ ▸ hflag)

/-! ### A swap and a push -/

/-- A lead screw of a hundred ticks to the millimetre, with the barrels 45 mm apart. -/
def exampleConstants : BarrelSwapConstants where
  LEAD_SCREW_TICKS_PER_MM := 100
  LEAD_SCREW_CALI_OUTPUT := 2000
  LEAD_SCREW_CURRENT_SPIKE_TORQUE := 1000
  HARD_STOP_OFFSET := 2
  BARREL_SWAP_DISTANCE_MM := 45
  BARRELS_ALIGNED_TOLERANCE := 1
  BARREL_SWAP_POSITION_PID_CONFIG := { kp := 100, maxOutput := 10000 }
  BARREL_IDS := ![.TURRET_17MM_1, .TURRET_17MM_2]
  safetyHeatTolerance := 30

/-- A standard robot that is switched on, its carriage at the left stop. -/
def exampleStart : System Robot.standard.constants :=
  start exampleConstants .TURRET_17MM_1 0 0 0 0 0 0 300 ⟨fun _ => 0, fun _ => false⟩

/-- The motor with the carriage at a position. -/
def exampleMotor (millimetres : Int64) (torque : Int16) : SwapMotor :=
  ⟨true, 100 * millimetres, torque, 0⟩

/-- An `execute` of the swap command, with no heat, the carriage at the left stop. -/
def exampleSwap (now : UInt32) (keyR : Bool) (torque : Int16) : Event :=
  .swapExecute ⟨now, false, keyR, exampleMotor 0 torque, ⟨0, 0, 0, 200⟩⟩

/-- An `execute` of the feeder's command, with no heat, the feeder turning. -/
def exampleFeed (now : UInt32) : Event := .feederExecute now 100 ⟨0, 0, 0, 200⟩

/-- The calibration, after which the carriage is at the left barrel; R is pressed, and the feeder
feeds. -/
def exampleCalibration : List Event :=
  [.feederInitialize 0,
    exampleSwap 0 false 1200, exampleFeed 0, .refresh (exampleMotor 0 1200),
    exampleSwap 500 false 1200, exampleFeed 500, .refresh (exampleMotor 2 0),
    exampleSwap 502 true 0, exampleFeed 502]

theorem feeds_only_aligned_calibrated :
    ¬ (run exampleConstants exampleStart exampleCalibration).feeder.Stopped ∧
      (run exampleConstants exampleStart exampleCalibration).swap.barrelManager.isBarrelAligned
        exampleConstants = true := by
  have hmeets : Meets exampleConstants exampleStart exampleCalibration := by decide +kernel
  have hturns : ¬ (run exampleConstants exampleStart exampleCalibration).feeder.Stopped := by
    decide +kernel
  exact ⟨hturns, (feeds_only_aligned .TURRET_17MM_1 0 0 0 0 0 0 300 ⟨fun _ => 0, fun _ => false⟩
    hmeets).2 (exampleCalibration.take 8) 502 100 ⟨0, 0, 0, 200⟩ [] rfl hturns⟩

/-- The same, with the feeder constructed first; the carriage is pushed away before the last
tick. -/
def examplePush : List Event :=
  [.feederInitialize 0,
    exampleFeed 0, exampleSwap 0 false 1200, .refresh (exampleMotor 0 1200),
    exampleFeed 500, exampleSwap 500 false 1200, .refresh (exampleMotor 2 0),
    exampleFeed 502, exampleSwap 502 false 0, .refresh (exampleMotor 30 0),
    exampleFeed 504]

/-- The state after R is released in the tick that follows the calibration. -/
def exampleReleased : System Robot.standard.constants :=
  run exampleConstants exampleStart
    (exampleCalibration ++ [.refresh (exampleMotor 2 0), exampleSwap 504 false 0])

/-- R is released while the carriage is aligned: the other side is selected, the flag is not set,
and the feeder is told to turn.  And a feeder that comes first turns though the last refresh found
the carriage between the sides. -/
theorem feeds_while_not_aligned :
    (exampleReleased.swap.barrelManager.isBarrelAligned exampleConstants = false ∧
      ¬ exampleReleased.swap.FlagRight exampleConstants ∧
      ¬ (step exampleConstants exampleReleased (exampleFeed 504)).feeder.Stopped) ∧
    (run exampleConstants exampleStart examplePush).swap.barrelManager.isBarrelAligned
        exampleConstants = false ∧
      ¬ (run exampleConstants exampleStart examplePush).feeder.Stopped := by
  decide +kernel

end Aimbots.BarrelManager
