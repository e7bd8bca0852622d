import Aimbots.Feeder.AutoFeederCommands
import Aimbots.Feeder.BarrelSwappingFeederCommand
import Aimbots.Feeder.FeederLimitCommand
import Aimbots.Library.Run

/-!
# The feeder's commands, one after another

`FeederLimitCommand` gives the primary motors a custom speed, which only a later `execute` of the
same command takes back, and a motor with a custom speed ignores `activateFeederMotor`.  A command
that is scheduled next finds the motor stopped and cannot start it: `normalAfter_iff` says that the
other commands reach the normal speed exactly if no custom speed has been left.
-/

namespace Aimbots.Feeder

open RefSystem Run

/-- What the `execute` of a feeder command asks for. -/
structure FeederReading extends FeederInputs where
  pressed : Bool
  rightSwitch : SwitchState
  barrelMovingFlag : Bool

/-- The reading of `FeederLimitCommand`. -/
def FeederReading.limit (r : FeederReading) : LimitInputs :=
  ⟨r.now, r.pressed, r.rightSwitch, r.currentRPM⟩

/-- `StopFeederCommand::initialize`, which its `execute` does again. -/
def StopFeederCommand.init {c : FeederConstants} (f : FeederSubsystem c) : FeederSubsystem c :=
  f.forFeederMotorGroup .ALL FeederSubsystem.deactivateFeederMotor

/-- A feeder command with its data members. -/
inductive FeederCommand
  | limit (cmd : FeederLimitCommand)
  | fullAuto (cmd : AutoFeederCommand)
  | dualBarrel (cmd : AutoFeederCommand)
  | barrelSwapping (cmd : BarrelSwappingFeederCommand)
  | stop

namespace FeederCommand

variable {c : FeederConstants} (safetyHeatTolerance : ℤ)

/-- `initialize`. -/
def init (r : FeederReading) (f : FeederSubsystem c) :
    FeederCommand → FeederCommand × FeederSubsystem c
  | limit cmd => (limit (cmd.init f r.now).1, (cmd.init f r.now).2)
  | fullAuto cmd =>
    (fullAuto (FullAutoFeederCommand.init cmd r.toFeederInputs f).1,
      (FullAutoFeederCommand.init cmd r.toFeederInputs f).2)
  | dualBarrel cmd =>
    (dualBarrel (DualBarrelFeederCommand.init cmd r.toFeederInputs f).1,
      (DualBarrelFeederCommand.init cmd r.toFeederInputs f).2)
  | barrelSwapping cmd => (barrelSwapping (cmd.init r.now f).1, (cmd.init r.now f).2)
  | stop => (stop, StopFeederCommand.init f)

/-- `execute`. -/
def execute (r : FeederReading) (f : FeederSubsystem c) :
    FeederCommand → FeederCommand × FeederSubsystem c
  | limit cmd => (limit (cmd.execute r.limit f).1, (cmd.execute r.limit f).2)
  | fullAuto cmd =>
    (fullAuto (FullAutoFeederCommand.execute cmd r.toFeederInputs f).1,
      (FullAutoFeederCommand.execute cmd r.toFeederInputs f).2)
  | dualBarrel cmd =>
    (dualBarrel (DualBarrelFeederCommand.execute cmd r.toFeederInputs f).1,
      (DualBarrelFeederCommand.execute cmd r.toFeederInputs f).2)
  | barrelSwapping cmd =>
    let (cmd, f) := cmd.execute safetyHeatTolerance r.refHelper r.barrelMovingFlag r.now
      r.currentRPM f
    (barrelSwapping cmd, f)
  | stop => (stop, StopFeederCommand.init f)

/-- `end`; that of `StopFeederCommand` does nothing. -/
def finish (f : FeederSubsystem c) : FeederCommand → FeederSubsystem c
  | limit _ => FeederLimitCommand.finish f
  | fullAuto _ | dualBarrel _ => AutoFeederCommand.finish f
  | barrelSwapping _ => BarrelSwappingFeederCommand.finish f
  | stop => f

end FeederCommand

/-- The feeder just after an `execute` of `FullAutoFeederCommand` or `DualBarrelFeederCommand` has
activated all motors, if it does. -/
def AutoFeederCommand.activation {c : FeederConstants} (cmd : AutoFeederCommand)
    (inp : FeederInputs) (f : FeederSubsystem c) : Option (FeederSubsystem c) :=
  if cmd.antiOverheatEncoderThreshold ≤ FeederSubsystem.getEncoderUnwrapped c inp.encoder then none
  else
    let unjams := decide (|inp.currentRPM| ≤ 10) && (cmd.startupThreshold.execute inp.now).1
    let unjamTimer :=
      if unjams then cmd.unjamTimer.restart inp.now cmd.UNJAM_TIMER_MS else cmd.unjamTimer
    let f := if unjams then f.forFeederMotorGroup .ALL FeederSubsystem.unjamFeederMotor else f
    if (unjamTimer.execute inp.now).1 then
      some (f.forFeederMotorGroup .ALL FeederSubsystem.activateFeederMotor)
    else none

/-- The same for `BarrelSwappingFeederCommand`, which activates the motors first. -/
def BarrelSwappingFeederCommand.activation {c : FeederConstants} (safetyHeatTolerance : ℤ)
    (cmd : BarrelSwappingFeederCommand) (r : FeederReading) (f : FeederSubsystem c) :
    Option (FeederSubsystem c) :=
  if mayFeed safetyHeatTolerance r.refHelper r.barrelMovingFlag &&
      (cmd.unjamTimer.execute r.now).1 then
    some (f.forFeederMotorGroup .ALL FeederSubsystem.activateFeederMotor)
  else none

/-- The feeder just after one of the three commands has activated all motors. -/
def FeederCommand.activation {c : FeederConstants} (safetyHeatTolerance : ℤ) (r : FeederReading)
    (f : FeederSubsystem c) : FeederCommand → Option (FeederSubsystem c)
  | fullAuto cmd | dualBarrel cmd => cmd.activation r.toFeederInputs f
  | barrelSwapping cmd => cmd.activation safetyHeatTolerance r f
  | limit _ | stop => none

/-! ### Motors with a custom speed -/

namespace FeederSubsystem

variable {c : FeederConstants} {f : FeederSubsystem c}

/-- Every motor has its normal speed as target. -/
def AllNormal (f : FeederSubsystem c) : Prop := ∀ i, f.feederTargetRPMs i = c.FEEDER_NORMAL_RPMS i

/-- No motor has a custom speed. -/
def NoCustomSpeed (f : FeederSubsystem c) : Prop := ∀ i, f.feederCustomSpeedActive i = false

/-- A motor with a custom speed is stopped, or turns backwards. -/
def CustomStopped (f : FeederSubsystem c) : Prop :=
  ∀ i, f.feederCustomSpeedActive i = true → f.feederTargetRPMs i ≤ 0

theorem motor_all {func : Fin c.FEEDER_MOTOR_COUNT → FeederSubsystem c → FeederSubsystem c}
    {g : Fin c.FEEDER_MOTOR_COUNT → ℚ × Bool → ℚ × Bool} (hlocal : Locally func g)
    (f : FeederSubsystem c) (j : Fin c.FEEDER_MOTOR_COUNT) :
    (f.forFeederMotorGroup .ALL func).motor j = g j (f.motor j) := by
  rw [motor_forFeederMotorGroup hlocal, if_pos (Or.inl rfl)]

theorem CustomStopped.deactivate (f : FeederSubsystem c) :
    (f.forFeederMotorGroup .ALL deactivateFeederMotor).CustomStopped :=
  fun i _ => (stopped_deactivate f i).le

theorem CustomStopped.setTargetRPM (h : f.CustomStopped) (j : Fin c.FEEDER_MOTOR_COUNT) :
    (f.setTargetRPM j 0).CustomStopped := by
  intro i hi
  by_cases hij : i = j
  · subst hij
    simp [FeederSubsystem.setTargetRPM]
  · simpa [FeederSubsystem.setTargetRPM, hij] using h i hi

theorem custom_unjam (f : FeederSubsystem c) (i : Fin c.FEEDER_MOTOR_COUNT) :
    (f.forFeederMotorGroup .ALL unjamFeederMotor).feederCustomSpeedActive i =
      f.feederCustomSpeedActive i :=
  congrArg Prod.snd (motor_all locally_unjam f i)

theorem CustomStopped.unjam (f : FeederSubsystem c) :
    (f.forFeederMotorGroup .ALL unjamFeederMotor).CustomStopped := by
  intro i _
  have htarget := congrArg Prod.fst (motor_all locally_unjam f i)
  have habs := abs_nonneg (c.FEEDER_UNJAM_RPMS i)
  simp only [motor] at htarget
  linarith

theorem motor_activate (f : FeederSubsystem c) (i : Fin c.FEEDER_MOTOR_COUNT) :
    (f.forFeederMotorGroup .ALL activateFeederMotor).motor i =
      if f.feederCustomSpeedActive i then f.motor i
      else (c.FEEDER_NORMAL_RPMS i, f.feederCustomSpeedActive i) :=
  motor_all locally_activate f i

theorem CustomStopped.activate (h : f.CustomStopped) :
    (f.forFeederMotorGroup .ALL activateFeederMotor).CustomStopped := by
  intro i hi
  have hmotor := motor_activate f i
  cases hcustom : f.feederCustomSpeedActive i with
  | true =>
    rw [hcustom, if_pos rfl] at hmotor
    exact (congrArg Prod.fst hmotor).trans_le (h i hcustom)
  | false =>
    rw [hcustom, if_neg Bool.false_ne_true] at hmotor
    exact absurd ((congrArg Prod.snd hmotor).symm.trans hi) Bool.false_ne_true

/-- **Activating all motors** reaches the normal speed exactly if none has a custom speed. -/
theorem allNormal_activate_iff (hpos : ∀ i, 0 < c.FEEDER_NORMAL_RPMS i) (h : f.CustomStopped) :
    (f.forFeederMotorGroup .ALL activateFeederMotor).AllNormal ↔ f.NoCustomSpeed := by
  refine forall_congr' fun i => ?_
  have hmotor := motor_activate f i
  cases hcustom : f.feederCustomSpeedActive i with
  | true =>
    rw [hcustom, if_pos rfl] at hmotor
    refine iff_of_false (fun hnormal => ?_) (fun hfalse => Bool.noConfusion hfalse)
    have hle := (congrArg Prod.fst hmotor).trans_le (h i hcustom)
    exact absurd (hnormal ▸ hle) (not_le.2 (hpos i))
  | false =>
    rw [hcustom, if_neg Bool.false_ne_true] at hmotor
    exact iff_of_true (congrArg Prod.fst hmotor) rfl

end FeederSubsystem

/-! ### What an `execute` does to the feeder -/

open FeederSubsystem

section Execute

variable {c : FeederConstants} (f : FeederSubsystem c)

/-- What the three commands do to the feeder: they activate it as it is or after they turned it
backwards, or they do not activate it. -/
theorem AutoFeederCommand.execute_cases (cmd : AutoFeederCommand) (inp : FeederInputs) :
    (∃ g, (g = f ∨ g = f.forFeederMotorGroup .ALL unjamFeederMotor) ∧
        cmd.activation inp f = some (g.forFeederMotorGroup .ALL activateFeederMotor) ∧
        (cmd.execute inp f).2 = g.forFeederMotorGroup .ALL activateFeederMotor) ∨
      cmd.activation inp f = none ∧
        ((cmd.execute inp f).2 = f.forFeederMotorGroup .ALL deactivateFeederMotor ∨
          (cmd.execute inp f).2 = f ∨
          (cmd.execute inp f).2 = f.forFeederMotorGroup .ALL unjamFeederMotor) := by
  by_cases hthreshold :
      cmd.antiOverheatEncoderThreshold ≤ FeederSubsystem.getEncoderUnwrapped c inp.encoder
  · rw [execute, activation, if_pos hthreshold, if_pos hthreshold]
    exact Or.inr ⟨rfl, Or.inl rfl⟩
  rw [execute, activation, if_neg hthreshold, if_neg hthreshold]
  by_cases hstill : |inp.currentRPM| ≤ 10
  · cases hstartup : (cmd.startupThreshold.execute inp.now).1 with
    | true =>
      simp only [hstill, hstartup, if_true, decide_true, Bool.and_true]
      cases ((cmd.unjamTimer.restart inp.now cmd.UNJAM_TIMER_MS).execute inp.now).1
      · exact Or.inr ⟨rfl, Or.inr (Or.inr rfl)⟩
      · exact Or.inl ⟨_, Or.inr rfl, rfl, rfl⟩
    | false =>
      simp only [hstill, hstartup, if_true, decide_true, Bool.and_false, Bool.false_eq_true,
        if_false]
      cases (cmd.unjamTimer.execute inp.now).1
      · exact Or.inr ⟨rfl, Or.inr (Or.inl rfl)⟩
      · exact Or.inl ⟨_, Or.inl rfl, rfl, rfl⟩
  · simp only [hstill, if_false, decide_false, Bool.false_and, Bool.false_eq_true]
    cases (cmd.unjamTimer.execute inp.now).1
    · exact Or.inr ⟨rfl, Or.inr (Or.inl rfl)⟩
    · exact Or.inl ⟨_, Or.inl rfl, rfl, rfl⟩

theorem BarrelSwappingFeederCommand.execute_cases (safetyHeatTolerance : ℤ)
    (cmd : BarrelSwappingFeederCommand) (r : FeederReading) :
    let g := f.forFeederMotorGroup .ALL activateFeederMotor
    let result := (cmd.execute safetyHeatTolerance r.refHelper r.barrelMovingFlag r.now
      r.currentRPM f).2
    cmd.activation safetyHeatTolerance r f = some g ∧
        (result = g ∨ result = g.forFeederMotorGroup .ALL unjamFeederMotor) ∨
      cmd.activation safetyHeatTolerance r f = none ∧
        (result = f.forFeederMotorGroup .ALL deactivateFeederMotor ∨ result = f ∨
          result = f.forFeederMotorGroup .ALL unjamFeederMotor) := by
  intro g result
  simp only [result, execute, activation]
  cases mayFeed safetyHeatTolerance r.refHelper r.barrelMovingFlag with
  | false => exact Or.inr ⟨rfl, Or.inl rfl⟩
  | true =>
    cases hunjam : (cmd.unjamTimer.execute r.now).1 with
    | true =>
      refine Or.inl ⟨rfl, ?_⟩
      simp only [if_true]
      rw [apply_ite Prod.snd]
      exact (ite_eq_or_eq _ _ _).symm
    | false =>
      refine Or.inr ⟨rfl, Or.inr ?_⟩
      simp only [Bool.false_eq_true, if_false, if_true]
      rw [apply_ite Prod.snd]
      exact (ite_eq_or_eq _ _ _).symm

variable {f}

theorem noCustomSpeed_unjam_iff :
    (f.forFeederMotorGroup .ALL unjamFeederMotor).NoCustomSpeed ↔ f.NoCustomSpeed :=
  forall_congr' fun i => by rw [custom_unjam]

theorem AutoFeederCommand.customStopped_execute (h : f.CustomStopped) (cmd : AutoFeederCommand)
    (inp : FeederInputs) : (cmd.execute inp f).2.CustomStopped := by
  rcases cmd.execute_cases f inp with ⟨g, hg, -, hresult⟩ | ⟨-, hresult | hresult | hresult⟩ <;>
    rw [hresult]
  · rcases hg with rfl | rfl
    · exact h.activate
    · exact (CustomStopped.unjam f).activate
  · exact .deactivate f
  · exact h
  · exact .unjam f

theorem BarrelSwappingFeederCommand.customStopped_execute (h : f.CustomStopped)
    (safetyHeatTolerance : ℤ) (cmd : BarrelSwappingFeederCommand) (r : FeederReading) :
    (cmd.execute safetyHeatTolerance r.refHelper r.barrelMovingFlag r.now r.currentRPM
      f).2.CustomStopped := by
  rcases cmd.execute_cases f safetyHeatTolerance r with
    ⟨-, hresult | hresult⟩ | ⟨-, hresult | hresult | hresult⟩ <;> rw [hresult]
  · exact h.activate
  · exact .unjam _
  · exact .deactivate f
  · exact h
  · exact .unjam f

/-- **What an activation reaches**: the normal speed, exactly if no motor has a custom speed. -/
theorem FeederCommand.allNormal_activation_iff (hpos : ∀ i, 0 < c.FEEDER_NORMAL_RPMS i)
    (h : f.CustomStopped) {safetyHeatTolerance : ℤ} {cmd : FeederCommand} {r : FeederReading}
    {g : FeederSubsystem c} (hg : cmd.activation safetyHeatTolerance r f = some g) :
    g.AllNormal ↔ f.NoCustomSpeed := by
  have hauto : ∀ cmd : AutoFeederCommand, cmd.activation r.toFeederInputs f = some g →
      (g.AllNormal ↔ f.NoCustomSpeed) := by
    intro cmd hcmd
    rcases cmd.execute_cases f r.toFeederInputs with ⟨g', hg', hsome, -⟩ | ⟨hnone, -⟩
    · cases hcmd.symm.trans hsome
      rcases hg' with rfl | rfl
      · exact allNormal_activate_iff hpos h
      · rw [allNormal_activate_iff hpos (.unjam f), noCustomSpeed_unjam_iff]
    · cases hcmd.symm.trans hnone
  cases cmd with
  | limit => cases hg
  | stop => cases hg
  | fullAuto cmd => exact hauto cmd hg
  | dualBarrel cmd => exact hauto cmd hg
  | barrelSwapping cmd =>
    rcases cmd.execute_cases f safetyHeatTolerance r with ⟨hsome, -⟩ | ⟨hnone, -⟩
    · cases hg.symm.trans hsome
      exact allNormal_activate_iff hpos h
    · cases hg.symm.trans hnone

end Execute

/-! ### Runs -/

/-- The calls of the scheduler: a command is initialized, which ends the one before it, since both
require the feeder; the command that is scheduled is executed, or ended. -/
inductive FeederEvent
  | init (cmd : FeederCommand) (r : FeederReading)
  | execute (r : FeederReading)
  | finish

/-- The feeder and the command that is scheduled, if any. -/
structure FeederRun (c : FeederConstants) where
  feeder : FeederSubsystem c
  scheduled : Option FeederCommand

namespace FeederRun

variable {c : FeederConstants} (safetyHeatTolerance : ℤ)

/-- Before the first command. -/
def start (c : FeederConstants) : FeederRun c := ⟨.construct c, none⟩

/-- The feeder after the end of the command that is scheduled. -/
def ended (run : FeederRun c) : FeederSubsystem c :=
  match run.scheduled with
  | some cmd => cmd.finish run.feeder
  | none => run.feeder

/-- One call. -/
def next (run : FeederRun c) : FeederEvent → FeederRun c
  | .init cmd r => ⟨(cmd.init r run.ended).2, some (cmd.init r run.ended).1⟩
  | .execute r =>
    match run.scheduled with
    | some cmd =>
      ⟨(cmd.execute safetyHeatTolerance r run.feeder).2,
        some (cmd.execute safetyHeatTolerance r run.feeder).1⟩
    | none => run
  | .finish => ⟨run.ended, none⟩

/-- The feeder just after the call has activated all motors for one of the three commands. -/
def activation (run : FeederRun c) : FeederEvent → Option (FeederSubsystem c)
  | .execute r => run.scheduled.bind (·.activation safetyHeatTolerance r run.feeder)
  | _ => none

/-- A call that activates all motors leaves every target at its normal speed. -/
def NormalAfter (run : FeederRun c) (e : FeederEvent) : Prop :=
  ∀ f, run.activation safetyHeatTolerance e = some f → f.AllNormal

/-- A call that activates all motors finds none with a custom speed. -/
def NoneCustom (run : FeederRun c) (e : FeederEvent) : Prop :=
  (run.activation safetyHeatTolerance e).isSome = true → run.feeder.NoCustomSpeed

/-- While the limit command is not scheduled, a motor with a custom speed does not feed. -/
def Inv (run : FeederRun c) : Prop :=
  (∀ cmd, run.scheduled ≠ some (.limit cmd)) → run.feeder.CustomStopped

variable {safetyHeatTolerance} {run : FeederRun c}

theorem inv_start : (start c).Inv := fun _ _ hi => by cases hi

theorem Inv.ended (h : run.Inv) : run.ended.CustomStopped := by
  rw [FeederRun.ended]
  cases hcmd : run.scheduled with
  | none => exact h (by simp [hcmd])
  | some cmd =>
    cases cmd with
    | stop => exact h (by simp [hcmd])
    | limit | fullAuto | dualBarrel | barrelSwapping => exact .deactivate _

theorem customStopped_init {f : FeederSubsystem c} (h : f.CustomStopped) (cmd : FeederCommand)
    (r : FeederReading) : (cmd.init r f).2.CustomStopped := by
  cases cmd with
  | fullAuto => exact h.setTargetRPM _
  | limit | dualBarrel | barrelSwapping | stop => exact .deactivate _

/-- **Every call keeps the invariant.** -/
theorem Inv.next (h : run.Inv) (e : FeederEvent) : (run.next safetyHeatTolerance e).Inv := by
  cases e with
  | init cmd r => exact fun _ => customStopped_init h.ended cmd r
  | finish => exact fun _ => h.ended
  | execute r =>
    intro hnot
    rw [FeederRun.next] at hnot ⊢
    cases hcmd : run.scheduled with
    | none => exact h (by simp [hcmd])
    | some cmd =>
      rw [hcmd] at hnot
      cases cmd with
      | limit cmd => exact absurd rfl (hnot _)
      | fullAuto cmd | dualBarrel cmd =>
        exact cmd.customStopped_execute (h (by simp [hcmd])) r.toFeederInputs
      | barrelSwapping cmd =>
        exact cmd.customStopped_execute (h (by simp [hcmd])) safetyHeatTolerance r
      | stop => exact .deactivate _

theorem normalAfter_iff_step (hpos : ∀ i, 0 < c.FEEDER_NORMAL_RPMS i) (h : run.Inv)
    (e : FeederEvent) :
    run.NormalAfter safetyHeatTolerance e ↔ run.NoneCustom safetyHeatTolerance e := by
  cases hactivation : run.activation safetyHeatTolerance e with
  | none => simp [NormalAfter, NoneCustom, hactivation]
  | some g =>
    cases e with
    | init | finish => cases hactivation
    | execute r =>
      obtain ⟨cmd, hcmd, hg⟩ := Option.bind_eq_some_iff.1 hactivation
      have hstopped : run.feeder.CustomStopped := h fun limit hlimit => by
        cases hcmd.symm.trans hlimit
        cases hg
      simp [NormalAfter, NoneCustom, hactivation, cmd.allNormal_activation_iff hpos hstopped hg]

/-- **When the normal speed is reached**: in every run of a robot, the targets after an activation
of all motors are the normal speeds exactly if no motor has a custom speed before. -/
theorem normalAfter_iff (robot : Robot) (safetyHeatTolerance : ℤ) (events : List FeederEvent) :
    Each (next safetyHeatTolerance) (NormalAfter safetyHeatTolerance)
      (start robot.constants) events ↔
      Each (next safetyHeatTolerance) (NoneCustom safetyHeatTolerance) (start robot.constants)
        events := by
  refine each_iff_of_step (fun run e h => normalAfter_iff_step robot.normal_pos h e) ?_ inv_start
  exact fun run e h _ => h.next e

/-- A reading of a hero that stands still, with a barrel that is cold. -/
def heroReading (now : UInt32) (rightSwitch : SwitchState) : FeederReading where
  now := now
  encoder := 0
  currentRPM := 0
  refHelper := ⟨⟨0, 0, 0, 100⟩, .TURRET_42MM⟩
  pressed := true
  rightSwitch := rightSwitch
  barrelMovingFlag := false

/-- A hero fires once with the limit command and is then switched to `FullAutoFeederCommand`. -/
def heroEvents : List FeederEvent :=
  [.init (.limit (.construct 300)) (heroReading 0 .MID), .execute (heroReading 1000 .UP), .finish,
    .init (.fullAuto ⟨0, 0, 300, .stopped, .stopped⟩) (heroReading 2000 .UP)]

/-- The hero's primary motor, number 1, does not start. -/
theorem not_normalAfter_hero :
    ¬ Each (next 0) (NormalAfter 0) (start Robot.hero.constants)
        (heroEvents ++ [.execute (heroReading 2001 .UP)]) ∧
      (after (next 0) (start Robot.hero.constants)
        (heroEvents ++ [.execute (heroReading 2001 .UP)])).feeder.feederTargetRPMs
          (1 : Fin 2) = 0 := by
  refine ⟨fun h => ?_, by decide +kernel⟩
  have hinv : (after (next 0) (start Robot.hero.constants) heroEvents).Inv :=
    inv_after (fun _ e h => h.next e) inv_start
  have hnone := (normalAfter_iff_step Robot.hero.normal_pos hinv _).1 (each_append.1 h).2.1
  have hcustom : (after (next 0) (start Robot.hero.constants)
      heroEvents).feeder.feederCustomSpeedActive
      (1 : Fin 2) = true := by decide +kernel
  exact Bool.noConfusion ((hnone (by decide +kernel) (1 : Fin 2)).symm.trans hcustom)

end FeederRun

end Aimbots.Feeder
