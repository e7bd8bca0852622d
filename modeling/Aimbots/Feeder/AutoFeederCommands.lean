import Aimbots.Feeder.FeederSubsystem
import Aimbots.RefSystem.RefHelperTurreted
import Aimbots.Tap.Timeout

/-!
# `full_auto_feeder_command.cpp` and `dual_barrel_feeder_command.cpp`

The two commands that feed until an encoder position which they compute when they are scheduled.
They have the same members and the same `execute` and `end`, which `AutoFeederCommand` has once;
`initialize` stops the feeder in two ways.

`budgetKept_iff` says when the allowance is what the heat of the barrel leaves: the code computes
the difference of limit and heat, the number of projectiles and the difference to the buffer in
types that wrap around, so a barrel above its limit is granted projectiles.
-/

namespace Aimbots.Feeder

open RefSystem RefereeHelperTurreted

/-- The data members that `FullAutoFeederCommand` and `DualBarrelFeederCommand` share. -/
structure AutoFeederCommand where
  antiOverheatEncoderThreshold : ℤ
  projectileBuffer : UInt8
  UNJAM_TIMER_MS : UInt32
  startupThreshold : Tap.Timeout
  unjamTimer : Tap.Timeout
deriving DecidableEq, Repr

/-- What the commands ask the clock, the feeder's motor 0 and the referee helper for. -/
structure FeederInputs where
  now : UInt32
  encoder : Int64
  currentRPM : ℚ
  refHelper : RefereeHelperTurreted

/-- The conversion to `int64_t`. -/
def toInt64 (x : ℤ) : ℤ := x.bmod (2 ^ 64)

namespace AutoFeederCommand

variable {c : FeederConstants}

/-- What both `initialize` do with the members of the command. -/
def schedule (c : FeederConstants) (cmd : AutoFeederCommand) (inp : FeederInputs) :
    AutoFeederCommand :=
  let encoderChangeThreshold := inp.refHelper.getAllowableFeederRotation
    c.PROJECTILES_PER_FEEDER_ROTATION cmd.projectileBuffer.toNat
  { cmd with
    startupThreshold := cmd.startupThreshold.restart inp.now 500
    unjamTimer := cmd.unjamTimer.restart inp.now 0
    antiOverheatEncoderThreshold :=
      toInt64 (FeederSubsystem.getEncoderUnwrapped c inp.encoder + encoderChangeThreshold) }

/-- `execute`. -/
def execute (cmd : AutoFeederCommand) (inp : FeederInputs) (f : FeederSubsystem c) :
    AutoFeederCommand × FeederSubsystem c :=
  if cmd.antiOverheatEncoderThreshold ≤ FeederSubsystem.getEncoderUnwrapped c inp.encoder then
    (cmd, f.forFeederMotorGroup .ALL FeederSubsystem.deactivateFeederMotor)
  else
    -- the timer is asked only if the feeder stands still
    let startup :=
      if |inp.currentRPM| ≤ 10 then cmd.startupThreshold.execute inp.now
      else (false, cmd.startupThreshold)
    let cmd := { cmd with startupThreshold := startup.2 }
    let (cmd, f) :=
      if startup.1 then
        ({ cmd with unjamTimer := cmd.unjamTimer.restart inp.now cmd.UNJAM_TIMER_MS },
          f.forFeederMotorGroup .ALL FeederSubsystem.unjamFeederMotor)
      else (cmd, f)
    let unjam := cmd.unjamTimer.execute inp.now
    let cmd := { cmd with unjamTimer := unjam.2 }
    if unjam.1 then
      ({ cmd with startupThreshold := cmd.startupThreshold.restart inp.now 500 },
        f.forFeederMotorGroup .ALL FeederSubsystem.activateFeederMotor)
    else (cmd, f)

/-- `end`. -/
def finish (f : FeederSubsystem c) : FeederSubsystem c :=
  f.forFeederMotorGroup .ALL FeederSubsystem.deactivateFeederMotor

end AutoFeederCommand

namespace FullAutoFeederCommand

variable {c : FeederConstants}

/-- `FullAutoFeederCommand::initialize`. -/
def init (cmd : AutoFeederCommand) (inp : FeederInputs) (f : FeederSubsystem c) :
    AutoFeederCommand × FeederSubsystem c :=
  (cmd.schedule c inp, f.setTargetRPM (FeederSubsystem.motor0 c) 0)

/-- `FullAutoFeederCommand::execute`. -/
def execute (cmd : AutoFeederCommand) (inp : FeederInputs) (f : FeederSubsystem c) :
    AutoFeederCommand × FeederSubsystem c := cmd.execute inp f

end FullAutoFeederCommand

namespace DualBarrelFeederCommand

variable {c : FeederConstants}

/-- `DualBarrelFeederCommand::initialize`. -/
def init (cmd : AutoFeederCommand) (inp : FeederInputs) (f : FeederSubsystem c) :
    AutoFeederCommand × FeederSubsystem c :=
  (cmd.schedule c inp, f.forFeederMotorGroup .ALL FeederSubsystem.deactivateFeederMotor)

/-- `DualBarrelFeederCommand::execute`. -/
def execute (cmd : AutoFeederCommand) (inp : FeederInputs) (f : FeederSubsystem c) :
    AutoFeederCommand × FeederSubsystem c := cmd.execute inp f

end DualBarrelFeederCommand

namespace AutoFeederCommand

variable {c : FeederConstants}

/-- From the threshold on, the feeder is stopped. -/
theorem stopped_execute {cmd : AutoFeederCommand} {inp : FeederInputs} (f : FeederSubsystem c)
    (h : cmd.antiOverheatEncoderThreshold ≤ FeederSubsystem.getEncoderUnwrapped c inp.encoder) :
    (cmd.execute inp f).2.Stopped := by
  rw [execute, if_pos h]
  exact f.stopped_deactivate

/-! ### The allowance -/

variable {robot : Robot} {r : RefereeHelperTurreted} {type : BulletType} {b : ℕ}

/-- **The ticks granted** are the share of the projectiles, rounded down. -/
theorem getAllowableFeederRotation_eq (robot : Robot) (r : RefereeHelperTurreted) (b : ℕ) :
    (r.getAllowableFeederRotation robot.constants.PROJECTILES_PER_FEEDER_ROTATION b : ℤ) =
      ⌊(8192 : ℚ) * (r.projectilesRemaining b).toNat /
        robot.constants.PROJECTILES_PER_FEEDER_ROTATION⌋ := by
  have hn : (r.projectilesRemaining b).toNat ≤ 255 := by
    have := (r.projectilesRemaining b).toNat_lt
    omega
  set n := (r.projectilesRemaining b).toNat with hdef
  have hten : robot.constants.PROJECTILES_PER_FEEDER_ROTATION = 10 →
      (r.getAllowableFeederRotation robot.constants.PROJECTILES_PER_FEEDER_ROTATION b : ℤ) =
      ⌊(8192 : ℚ) * n / robot.constants.PROJECTILES_PER_FEEDER_ROTATION⌋ := by
    intro hP
    rw [RefereeHelperTurreted.getAllowableFeederRotation, hP, ← hdef, ticks_ten hn,
      Int.toNat_natCast]
    have hfloor := Rat.floor_intCast_div_natCast (8192 * n) 10
    push_cast at hfloor ⊢
    exact hfloor.symm
  cases robot with
  | aerial => exact hten rfl
  | sentry => exact hten rfl
  | standard => exact hten rfl
  | hero =>
    have hP : Robot.hero.constants.PROJECTILES_PER_FEEDER_ROTATION = 1 / 2 := rfl
    have hdiv : (n : ℚ) / (1 / 2) = n * (2 : ℕ) := by push_cast; ring
    have hfloor : (8192 : ℚ) * n / (1 / 2) = ((8192 * (n * 2) : ℕ) : ℤ) := by
      push_cast
      ring
    rw [RefereeHelperTurreted.getAllowableFeederRotation, hP, ← hdef, hdiv, ticks_inv hn le_rfl,
      Int.toNat_natCast, hfloor, Int.floor_intCast]

theorem projectiles_pos (robot : Robot) : 0 < robot.constants.PROJECTILES_PER_FEEDER_ROTATION := by
  cases robot <;> simp [Robot.constants]

theorem projectiles_le (robot : Robot) :
    robot.constants.PROJECTILES_PER_FEEDER_ROTATION ≤ 10 := by
  cases robot <;> norm_num [Robot.constants]

/-- The ticks granted are within a budget of `n` projectiles exactly if the projectiles are. -/
theorem grant_le_iff (robot : Robot) (r : RefereeHelperTurreted) (b : ℕ) (n : ℤ) :
    (r.getAllowableFeederRotation robot.constants.PROJECTILES_PER_FEEDER_ROTATION b : ℚ) ≤
        ENC_RESOLUTION * n / robot.constants.PROJECTILES_PER_FEEDER_ROTATION ↔
      ((r.projectilesRemaining b).toNat : ℤ) ≤ n := by
  have hpos := projectiles_pos robot
  have hle := projectiles_le robot
  have hgrant : (r.getAllowableFeederRotation robot.constants.PROJECTILES_PER_FEEDER_ROTATION b : ℚ)
      = _ := congrArg Int.cast (getAllowableFeederRotation_eq robot r b)
  rw [hgrant, ENC_RESOLUTION]
  push_cast
  set m : ℤ := ((r.projectilesRemaining b).toNat : ℤ) with hm
  have hmq : ((r.projectilesRemaining b).toNat : ℚ) = m := by rw [hm]; push_cast; rfl
  rw [hmq]
  constructor
  · intro h
    by_contra! hlt
    -- one projectile more is at least one tick more
    have hlt' : (n : ℚ) + 1 ≤ m := by exact_mod_cast hlt
    have hfloor := Int.lt_floor_add_one
      (8192 * (m : ℚ) / robot.constants.PROJECTILES_PER_FEEDER_ROTATION)
    have hone : 1 ≤ 8192 / robot.constants.PROJECTILES_PER_FEEDER_ROTATION := by
      rw [le_div_iff₀ hpos]
      linarith
    have hmore : 8192 * (n : ℚ) / robot.constants.PROJECTILES_PER_FEEDER_ROTATION + 1 ≤
        8192 * (m : ℚ) / robot.constants.PROJECTILES_PER_FEEDER_ROTATION := by
      calc 8192 * (n : ℚ) / robot.constants.PROJECTILES_PER_FEEDER_ROTATION + 1
          ≤ 8192 * (n : ℚ) / robot.constants.PROJECTILES_PER_FEEDER_ROTATION +
            8192 / robot.constants.PROJECTILES_PER_FEEDER_ROTATION := by linarith
        _ = 8192 * ((n : ℚ) + 1) / robot.constants.PROJECTILES_PER_FEEDER_ROTATION := by ring
        _ ≤ 8192 * (m : ℚ) / robot.constants.PROJECTILES_PER_FEEDER_ROTATION := by gcongr
    linarith
  · intro h
    refine (Int.floor_le _).trans ?_
    have h' : (m : ℚ) ≤ n := by exact_mod_cast h
    gcongr

theorem grant_le (robot : Robot) (r : RefereeHelperTurreted) (b : ℕ) :
    r.getAllowableFeederRotation robot.constants.PROJECTILES_PER_FEEDER_ROTATION b ≤ 4177920 := by
  have hn : ((r.projectilesRemaining b).toNat : ℤ) ≤ 255 := by
    have := (r.projectilesRemaining b).toNat_lt
    omega
  have h := (grant_le_iff robot r b 255).2 hn
  have hP : (1 : ℚ) / 2 ≤ robot.constants.PROJECTILES_PER_FEEDER_ROTATION := by
    cases robot <;> norm_num [Robot.constants]
  have hbound : (ENC_RESOLUTION : ℚ) * (255 : ℤ) / robot.constants.PROJECTILES_PER_FEEDER_ROTATION ≤
      4177920 := by
    rw [div_le_iff₀ (projectiles_pos robot), ENC_RESOLUTION]
    push_cast
    linarith
  exact_mod_cast h.trans hbound

/-- The code's threshold does not leave `int64_t`. -/
theorem schedule_threshold (robot : Robot) (cmd : AutoFeederCommand) (inp : FeederInputs) :
    (cmd.schedule robot.constants inp).antiOverheatEncoderThreshold =
      FeederSubsystem.getEncoderUnwrapped robot.constants inp.encoder +
        inp.refHelper.getAllowableFeederRotation robot.constants.PROJECTILES_PER_FEEDER_ROTATION
          cmd.projectileBuffer.toNat := by
  have hgear : robot.constants.FEEDER_GEAR_RATIOS (FeederSubsystem.motor0 robot.constants) =
      36 := by
    cases robot <;> rfl
  have hgrant := grant_le robot inp.refHelper cmd.projectileBuffer.toNat
  have hmin := inp.encoder.le_toInt
  have hmax := inp.encoder.toInt_lt
  have hdiv : (inp.encoder.toInt.tdiv 36).natAbs = inp.encoder.toInt.natAbs / 36 :=
    Int.natAbs_tdiv ..
  simp only [schedule, toInt64, FeederSubsystem.getEncoderUnwrapped, hgear, Nat.cast_ofNat]
  rw [Int.bmod_def]
  split_ifs <;> omega

/-- The projectiles that the heat of the barrel leaves, less the buffer. -/
def heatBudget (r : RefereeHelperTurreted) (type : BulletType) (b : ℕ) : ℤ :=
  max 0 (((r.getCurrBarrelLimit.toNat : ℤ) - r.getCurrBarrelHeat.toNat) /
    heatGainedPerProjectile type - b)

/-- The allowance is kept: neither the ticks granted nor the thresholds that the two commands set
exceed the heat budget. -/
def BudgetKept (robot : Robot) (r : RefereeHelperTurreted) (type : BulletType) (b : ℕ) : Prop :=
  let ticks : ℚ := ENC_RESOLUTION * heatBudget r type b /
    robot.constants.PROJECTILES_PER_FEEDER_ROTATION
  (r.getAllowableFeederRotation robot.constants.PROJECTILES_PER_FEEDER_ROTATION b : ℚ) ≤ ticks ∧
    ∀ (cmd : AutoFeederCommand) (inp : FeederInputs) (f : FeederSubsystem robot.constants),
      cmd.projectileBuffer.toNat = b → inp.refHelper = r →
      ((FullAutoFeederCommand.init cmd inp f).1.antiOverheatEncoderThreshold : ℚ) ≤
        FeederSubsystem.getEncoderUnwrapped robot.constants inp.encoder + ticks ∧
      ((DualBarrelFeederCommand.init cmd inp f).1.antiOverheatEncoderThreshold : ℚ) ≤
        FeederSubsystem.getEncoderUnwrapped robot.constants inp.encoder + ticks

/-- The projectiles, as the code computes them, are within the budget if the integers say so, or if
what wraps around cancels out. -/
theorem projectilesRemaining_le_iff (htype : r.currBarrelID.projectileType = some type) :
    ((r.projectilesRemaining b).toNat : ℤ) ≤ heatBudget r type b ↔
      (r.getCurrBarrelHeat ≤ r.getCurrBarrelLimit ∧
        (b : ℤ) ≤ ((r.getCurrBarrelLimit.toNat : ℤ) - r.getCurrBarrelHeat.toNat) /
          heatGainedPerProjectile type) ∨
      (b : ℤ) % 256 = ((r.getCurrBarrelLimit.toNat : ℤ) - r.getCurrBarrelHeat.toNat) % 65536 /
        heatGainedPerProjectile type % 256 := by
  have hL := r.getCurrBarrelLimit.toNat_lt
  have hh := r.getCurrBarrelHeat.toNat_lt
  rw [projectilesRemaining_eq, getRemainingProjectiles_eq htype, heatBudget, UInt16.le_iff_toNat_le]
  cases type <;> simp only [heatGainedPerProjectile, Nat.cast_ofNat] <;> omega

/-- **When the allowance is kept**: the heat is at most the limit and the buffer at most the
projectiles that are left, or the buffer is, modulo 256, the number of projectiles that the
difference modulo `2 ^ 16` gives. -/
theorem budgetKept_iff (robot : Robot) (r : RefereeHelperTurreted) (type : BulletType) (b : ℕ)
    (htype : r.currBarrelID.projectileType = some type) :
    BudgetKept robot r type b ↔
      (r.getCurrBarrelHeat ≤ r.getCurrBarrelLimit ∧
        (b : ℤ) ≤ ((r.getCurrBarrelLimit.toNat : ℤ) - r.getCurrBarrelHeat.toNat) /
          heatGainedPerProjectile type) ∨
      (b : ℤ) % 256 = ((r.getCurrBarrelLimit.toNat : ℤ) - r.getCurrBarrelHeat.toNat) % 65536 /
        heatGainedPerProjectile type % 256 := by
  rw [← projectilesRemaining_le_iff htype, ← grant_le_iff robot]
  refine ⟨fun h => h.1, fun h => ⟨h, ?_⟩⟩
  rintro cmd inp f rfl rfl
  have hthreshold : ((cmd.schedule robot.constants inp).antiOverheatEncoderThreshold : ℚ) =
      _ := congrArg Int.cast (schedule_threshold robot cmd inp)
  push_cast at hthreshold
  constructor <;>
  · show ((cmd.schedule robot.constants inp).antiOverheatEncoderThreshold : ℚ) ≤ _
    rw [hthreshold]
    gcongr

theorem budgetKept_iff_standard :
    BudgetKept .standard ⟨⟨20, 0, 0, 50⟩, .TURRET_17MM_1⟩ .AMMO_17 1 ↔
      ((20 : UInt16) ≤ 50 ∧ ((1 : ℕ) : ℤ) ≤ ((50 : UInt16).toNat - (20 : UInt16).toNat : ℤ) /
          heatGainedPerProjectile .AMMO_17) ∨
      ((1 : ℕ) : ℤ) % 256 = ((50 : UInt16).toNat - (20 : UInt16).toNat : ℤ) % 65536 /
        heatGainedPerProjectile .AMMO_17 % 256 :=
  budgetKept_iff .standard ⟨⟨20, 0, 0, 50⟩, .TURRET_17MM_1⟩ .AMMO_17 1 rfl

/-- A barrel that is one unit of heat above its limit is granted 153 projectiles. -/
theorem budget_exceeded_above_limit :
    ¬ BudgetKept .standard ⟨⟨51, 0, 0, 50⟩, .TURRET_17MM_1⟩ .AMMO_17 0 ∧
      projectilesRemaining ⟨⟨51, 0, 0, 50⟩, .TURRET_17MM_1⟩ 0 = 153 := by
  refine ⟨fun h => ?_, by decide⟩
  have hle :=
    (grant_le_iff .standard _ 0 (heatBudget ⟨⟨51, 0, 0, 50⟩, .TURRET_17MM_1⟩ .AMMO_17 0)).1 h.1
  exact absurd hle (by decide)

end AutoFeederCommand

end Aimbots.Feeder
