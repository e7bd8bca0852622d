import Aimbots.Feeder.FeederSubsystem
import Aimbots.Tap.Timeout

/-!
# `feeder_limit_command.cpp`: feeding up to the limit switch

The command runs the loader until a projectile presses the limit switch, and leaves it dormant until
the fire switch goes up; then it turns the primary motors at three times their normal speed.  The
variables that the source keeps at file scope are members here; `limitPressed`, `prevFireState` and
`limitSwitchDownTime` are written before they are read in every `execute`.
-/

namespace Aimbots.Feeder

/-- `Remote::SwitchState`. -/
inductive SwitchState
  | UNKNOWN
  | UP
  | MID
  | DOWN
deriving DecidableEq, Repr

/-- The data members of `FeederLimitCommand`, and its variables at file scope. -/
structure FeederLimitCommand where
  UNJAM_TIMER_MS : UInt32
  startupThreshold : Tap.Timeout
  unjamTimer : Tap.Timeout
  limitswitchInactive : Tap.Timeout
  currFireState : Bool
  isFiring : Bool
  loaderDormant : Bool
deriving DecidableEq, Repr

/-- What an `execute` asks the clock, the limit switch, the remote and the feeder's motor 0 for. -/
structure LimitInputs where
  now : UInt32
  pressed : Bool
  rightSwitch : SwitchState
  currentRPM : ℚ
deriving DecidableEq, Repr

/-- `limitSwitchDownTime`, as `execute` sets it. -/
def limitSwitchDownTime : UInt32 := 350

namespace FeederLimitCommand

variable {c : FeederConstants} (cmd : FeederLimitCommand) (inp : LimitInputs)
    (f : FeederSubsystem c)

/-- The constructor. -/
def construct (UNJAM_TIMER_MS : UInt32) : FeederLimitCommand :=
  ⟨UNJAM_TIMER_MS, .stopped, .stopped, .stopped, false, false, false⟩

/-- `initialize`. -/
def init (now : UInt32) : FeederLimitCommand × FeederSubsystem c :=
  ({ cmd with
      startupThreshold := cmd.startupThreshold.restart now 500
      unjamTimer := cmd.unjamTimer.restart now 0
      limitswitchInactive := cmd.limitswitchInactive.restart now 0 },
    f.forFeederMotorGroup .ALL FeederSubsystem.deactivateFeederMotor)

/-- The fire switch goes up. -/
def fires : Bool := decide (inp.rightSwitch = .UP) && !cmd.currFireState

/-- `startupThreshold.execute()`, which is asked only if the feeder stands still. -/
def startup : Bool × Tap.Timeout :=
  if |inp.currentRPM| ≤ 10 then cmd.startupThreshold.execute inp.now
  else (false, cmd.startupThreshold)

/-- The first branch of `execute`: the loader runs. -/
def runLoader : FeederLimitCommand × FeederSubsystem c :=
  let startup := cmd.startup inp
  let cmd := { cmd with startupThreshold := startup.2 }
  let (cmd, f) :=
    if startup.1 then
      ({ cmd with unjamTimer := cmd.unjamTimer.restart inp.now cmd.UNJAM_TIMER_MS },
        f.forFeederMotorGroup .SECONDARY FeederSubsystem.unjamFeederMotor)
    else (cmd, f)
  let unjam := cmd.unjamTimer.execute inp.now
  let cmd := { cmd with unjamTimer := unjam.2 }
  if unjam.1 then
    ({ cmd with startupThreshold := cmd.startupThreshold.restart inp.now 500 },
      ((f.forFeederMotorGroup .SECONDARY FeederSubsystem.activateFeederMotor).forFeederMotorGroup
        .PRIMARY (FeederSubsystem.setFeederCustomMulti 1)).forFeederMotorGroup
        .PRIMARY FeederSubsystem.activateFeederMotor)
  else (cmd, f)

/-- The other branch: the loader is dormant. -/
def restLoader : FeederLimitCommand × FeederSubsystem c :=
  let f := f.forFeederMotorGroup .SECONDARY FeederSubsystem.deactivateFeederMotor
  ({ cmd with loaderDormant := true },
    if cmd.isFiring then f
    else f.forFeederMotorGroup .PRIMARY FeederSubsystem.deactivateFeederMotor)

/-- `execute`. -/
def execute : FeederLimitCommand × FeederSubsystem c :=
  let limitPressed := !inp.pressed
  let prevFireState := cmd.currFireState
  let cmd := { cmd with currFireState := decide (inp.rightSwitch = SwitchState.UP) }
  let cmd :=
    if cmd.limitswitchInactive.isExpired inp.now then { cmd with isFiring := false } else cmd
  let (cmd, f) :=
    if !limitPressed && !cmd.loaderDormant then cmd.runLoader inp f else cmd.restLoader f
  if cmd.currFireState && !prevFireState then
    ({ cmd with
        isFiring := true
        loaderDormant := false
        limitswitchInactive := cmd.limitswitchInactive.restart inp.now limitSwitchDownTime },
      f.forFeederMotorGroup .PRIMARY (FeederSubsystem.setFeederCustomMulti 3))
  else (cmd, f)

/-- `end`. -/
def finish : FeederSubsystem c :=
  f.forFeederMotorGroup .ALL FeederSubsystem.deactivateFeederMotor

/-! ### The parts of an `execute` -/

/-- The members before the first branch. -/
def beforeLoader : FeederLimitCommand :=
  { cmd with
    currFireState := decide (inp.rightSwitch = SwitchState.UP)
    isFiring := if cmd.limitswitchInactive.isExpired inp.now then false else cmd.isFiring }

/-- What the last branch does after the others. -/
def fire (r : FeederLimitCommand × FeederSubsystem c) : FeederLimitCommand × FeederSubsystem c :=
  ({ r.1 with
      isFiring := true
      loaderDormant := false
      limitswitchInactive := r.1.limitswitchInactive.restart inp.now limitSwitchDownTime },
    r.2.forFeederMotorGroup .PRIMARY (FeederSubsystem.setFeederCustomMulti 3))

/-- What the loader's branch does. -/
def loader : FeederLimitCommand × FeederSubsystem c :=
  if inp.pressed && !cmd.loaderDormant then (cmd.beforeLoader inp).runLoader inp f
  else (cmd.beforeLoader inp).restLoader f

/-- `startupThreshold` runs out in an `execute`, and the timer for the end of it is set. -/
def unjams : Bool := (cmd.startup inp).1

/-- `unjamTimer` when it is asked. -/
def askedUnjamTimer : Tap.Timeout :=
  if cmd.unjams inp then cmd.unjamTimer.restart inp.now cmd.UNJAM_TIMER_MS else cmd.unjamTimer

/-- `unjamTimer` runs out in an `execute`. -/
def activates : Bool := ((cmd.askedUnjamTimer inp).execute inp.now).1

variable {cmd inp f}

theorem startup_of_not_unjams (h : cmd.unjams inp = false) :
    (cmd.startup inp).2 = cmd.startupThreshold := by
  unfold unjams startup at *
  split_ifs at h ⊢
  · exact Tap.Timeout.execute_of_false h
  · rfl

theorem startup_of_unjams (h : cmd.unjams inp = true) :
    cmd.startupThreshold.isExecuted = false ∧
      (cmd.startup inp).2 = { cmd.startupThreshold with isExecuted := true } := by
  unfold unjams startup at *
  split_ifs at h ⊢
  obtain ⟨hexecuted, -, htimer⟩ := Tap.Timeout.execute_of_true h
  exact ⟨hexecuted, htimer⟩

/-- **What the running loader does**, by what its timers say. -/
theorem runLoader_eq (cmd : FeederLimitCommand) (inp : LimitInputs) (f : FeederSubsystem c) :
    cmd.runLoader inp f =
      let g :=
        if cmd.unjams inp then f.forFeederMotorGroup .SECONDARY FeederSubsystem.unjamFeederMotor
        else f
      let unjamTimer := ((cmd.askedUnjamTimer inp).execute inp.now).2
      if cmd.activates inp then
        ({ cmd with
            startupThreshold := (cmd.startup inp).2.restart inp.now 500, unjamTimer := unjamTimer },
          ((g.forFeederMotorGroup .SECONDARY
            FeederSubsystem.activateFeederMotor).forFeederMotorGroup
            .PRIMARY (FeederSubsystem.setFeederCustomMulti 1)).forFeederMotorGroup
            .PRIMARY FeederSubsystem.activateFeederMotor)
      else
        ({ cmd with startupThreshold := (cmd.startup inp).2, unjamTimer := unjamTimer }, g) := by
  unfold runLoader activates askedUnjamTimer unjams
  cases h : (cmd.startup inp).1 <;> simp only [h, Bool.false_eq_true, if_true, if_false]

theorem currFireState_loader (cmd : FeederLimitCommand) (inp : LimitInputs)
    (f : FeederSubsystem c) :
    (cmd.loader inp f).1.currFireState = decide (inp.rightSwitch = SwitchState.UP) := by
  rw [loader]
  split_ifs
  · rw [runLoader_eq]
    dsimp only
    split_ifs <;> rfl
  · rfl

/-- **The parts make up an `execute`.** -/
theorem execute_eq (cmd : FeederLimitCommand) (inp : LimitInputs) (f : FeederSubsystem c) :
    cmd.execute inp f =
      if cmd.fires inp then fire inp (cmd.loader inp f) else cmd.loader inp f := by
  have hexecute : cmd.execute inp f =
      if (cmd.loader inp f).1.currFireState && !cmd.currFireState then fire inp (cmd.loader inp f)
      else cmd.loader inp f := by
    unfold execute loader beforeLoader
    cases hexpired : cmd.limitswitchInactive.isExpired inp.now <;>
      simp only [hexpired, Bool.not_not, Bool.false_eq_true, if_true, if_false] <;> rfl
  rw [hexecute, currFireState_loader, fires]

end FeederLimitCommand

end Aimbots.Feeder
