import Mathlib.Algebra.Order.Ring.Rat
import Mathlib.Data.Fin.VecNotation
import Mathlib.Logic.Function.Basic

/-!
# `feeder.hpp`: the feeder subsystem

The targets of the feeder's motors, as the feeder commands set them.  The motors of a robot and
what its constants say about them are a `FeederConstants`; `Robot.constants` has those of the four
robots that are compiled with a feeder.
-/

namespace Aimbots.Feeder

/-- `FeederGroup`. -/
inductive FeederGroup
  | ALL
  | PRIMARY
  | SECONDARY
  | TERTIARY
deriving DecidableEq, Repr

/-- The constants of a robot's feeder. -/
structure FeederConstants where
  FEEDER_MOTOR_COUNT : ℕ
  FEEDER_NORMAL_RPMS : Fin FEEDER_MOTOR_COUNT → ℚ
  FEEDER_UNJAM_RPMS : Fin FEEDER_MOTOR_COUNT → ℚ
  FEEDER_MOTOR_GROUPS : Fin FEEDER_MOTOR_COUNT → FeederGroup
  FEEDER_GEAR_RATIOS : Fin FEEDER_MOTOR_COUNT → ℕ
  PROJECTILES_PER_FEEDER_ROTATION : ℚ
  motor_zero : 0 < FEEDER_MOTOR_COUNT

/-- The robots whose constants define `FEEDER_COMPATIBLE`. -/
inductive Robot
  | aerial
  | hero
  | sentry
  | standard
deriving DecidableEq, Repr

/-- The feeder constants of each robot. -/
def Robot.constants : Robot → FeederConstants
  | .aerial => {
      FEEDER_MOTOR_COUNT := 1
      FEEDER_NORMAL_RPMS := ![4150]
      FEEDER_UNJAM_RPMS := ![3000]
      FEEDER_MOTOR_GROUPS := ![.PRIMARY]
      FEEDER_GEAR_RATIOS := ![36]
      PROJECTILES_PER_FEEDER_ROTATION := 10
      motor_zero := Nat.one_pos }
  | .hero => {
      FEEDER_MOTOR_COUNT := 2
      FEEDER_NORMAL_RPMS := ![500, 4000]
      FEEDER_UNJAM_RPMS := ![3000, 3000]
      FEEDER_MOTOR_GROUPS := ![.SECONDARY, .PRIMARY]
      FEEDER_GEAR_RATIOS := ![36, 36]
      PROJECTILES_PER_FEEDER_ROTATION := 1 / 2
      motor_zero := Nat.two_pos }
  | .sentry => {
      FEEDER_MOTOR_COUNT := 1
      FEEDER_NORMAL_RPMS := ![2550]
      FEEDER_UNJAM_RPMS := ![3000]
      FEEDER_MOTOR_GROUPS := ![.PRIMARY]
      FEEDER_GEAR_RATIOS := ![36]
      PROJECTILES_PER_FEEDER_ROTATION := 10
      motor_zero := Nat.one_pos }
  | .standard => {
      FEEDER_MOTOR_COUNT := 1
      FEEDER_NORMAL_RPMS := ![4150]
      FEEDER_UNJAM_RPMS := ![3000]
      FEEDER_MOTOR_GROUPS := ![.PRIMARY]
      FEEDER_GEAR_RATIOS := ![36]
      PROJECTILES_PER_FEEDER_ROTATION := 10
      motor_zero := Nat.one_pos }

theorem Robot.normal_pos (robot : Robot) (i : Fin robot.constants.FEEDER_MOTOR_COUNT) :
    0 < robot.constants.FEEDER_NORMAL_RPMS i := by
  revert i
  cases robot <;> decide

/-- What the commands read and write of `FeederSubsystem`. -/
structure FeederSubsystem (c : FeederConstants) where
  feederTargetRPMs : Fin c.FEEDER_MOTOR_COUNT → ℚ
  feederCustomSpeedActive : Fin c.FEEDER_MOTOR_COUNT → Bool

namespace FeederSubsystem

variable {c : FeederConstants}

/-- The index 0, the default argument of the methods. -/
def motor0 (c : FeederConstants) : Fin c.FEEDER_MOTOR_COUNT := ⟨0, c.motor_zero⟩

/-- The constructor, by `BuildFeederMotors`. -/
def construct (c : FeederConstants) : FeederSubsystem c := ⟨fun _ => 0, fun _ => false⟩

/-- `setTargetRPM`. -/
def setTargetRPM (i : Fin c.FEEDER_MOTOR_COUNT) (rpm : ℚ) (f : FeederSubsystem c) :
    FeederSubsystem c :=
  { f with feederTargetRPMs := Function.update f.feederTargetRPMs i rpm }

/-- `activateFeederMotor`: a custom speed takes the place of the normal one. -/
def activateFeederMotor (i : Fin c.FEEDER_MOTOR_COUNT) (f : FeederSubsystem c) :
    FeederSubsystem c :=
  if f.feederCustomSpeedActive i then f else f.setTargetRPM i (c.FEEDER_NORMAL_RPMS i)

/-- `deactivateFeederMotor`. -/
def deactivateFeederMotor (i : Fin c.FEEDER_MOTOR_COUNT) (f : FeederSubsystem c) :
    FeederSubsystem c := f.setTargetRPM i 0

/-- `unjamFeederMotor`. -/
def unjamFeederMotor (i : Fin c.FEEDER_MOTOR_COUNT) (f : FeederSubsystem c) : FeederSubsystem c :=
  f.setTargetRPM i (-|c.FEEDER_UNJAM_RPMS i|)

/-- `setFeederCustomStatus`. -/
def setFeederCustomStatus (customStatus : Bool) (i : Fin c.FEEDER_MOTOR_COUNT)
    (f : FeederSubsystem c) : FeederSubsystem c :=
  { f with
    feederCustomSpeedActive := Function.update f.feederCustomSpeedActive i customStatus }

/-- `setFeederCustomMulti`: a multiple of the normal speed, or the end of a custom speed. -/
def setFeederCustomMulti (mul : ℚ) (i : Fin c.FEEDER_MOTOR_COUNT) (f : FeederSubsystem c) :
    FeederSubsystem c :=
  if mul = 1 then f.setFeederCustomStatus false i
  else (f.setFeederCustomStatus true i).setTargetRPM i (c.FEEDER_NORMAL_RPMS i * mul)

/-- `ForFeederMotorGroup`. -/
def forFeederMotorGroup (groupID : FeederGroup)
    (func : Fin c.FEEDER_MOTOR_COUNT → FeederSubsystem c → FeederSubsystem c)
    (f : FeederSubsystem c) : FeederSubsystem c :=
  (List.finRange c.FEEDER_MOTOR_COUNT).foldl
    (fun f i => if groupID = .ALL ∨ c.FEEDER_MOTOR_GROUPS i = groupID then func i f else f) f

/-- `getEncoderUnwrapped()`: the reading of motor 0 in front of its gear box, in `int64_t`. -/
def getEncoderUnwrapped (c : FeederConstants) (reading : Int64) : ℤ :=
  reading.toInt.tdiv (c.FEEDER_GEAR_RATIOS (motor0 c))

/-- The feeder stands still if no target is left. -/
def Stopped (f : FeederSubsystem c) : Prop := ∀ i, f.feederTargetRPMs i = 0

instance (f : FeederSubsystem c) : Decidable f.Stopped :=
  inferInstanceAs (Decidable (∀ i, f.feederTargetRPMs i = 0))

/-! ### One motor at a time -/

/-- What the subsystem keeps of one motor: its target, and whether it has a custom speed. -/
def motor (f : FeederSubsystem c) (i : Fin c.FEEDER_MOTOR_COUNT) : ℚ × Bool :=
  (f.feederTargetRPMs i, f.feederCustomSpeedActive i)

/-- The operation on a motor acts on what the subsystem keeps of it, and of no other motor. -/
def Locally (func : Fin c.FEEDER_MOTOR_COUNT → FeederSubsystem c → FeederSubsystem c)
    (g : Fin c.FEEDER_MOTOR_COUNT → ℚ × Bool → ℚ × Bool) : Prop :=
  ∀ f i j, (func i f).motor j = if j = i then g j (f.motor j) else f.motor j

theorem ext_motor {f f' : FeederSubsystem c} (h : ∀ i, f.motor i = f'.motor i) : f = f' := by
  obtain ⟨target, custom⟩ := f
  obtain ⟨target', custom'⟩ := f'
  have htarget : target = target' := funext fun i => congrArg Prod.fst (h i)
  have hcustom : custom = custom' := funext fun i => congrArg Prod.snd (h i)
  rw [htarget, hcustom]

theorem locally_activate : Locally (c := c) activateFeederMotor fun i m =>
    if m.2 then m else (c.FEEDER_NORMAL_RPMS i, m.2) := by
  intro f i j
  by_cases hij : j = i
  · subst hij
    cases hcustom : f.feederCustomSpeedActive j <;>
      simp [activateFeederMotor, motor, setTargetRPM, hcustom]
  · cases hcustom : f.feederCustomSpeedActive i <;>
      simp [activateFeederMotor, motor, setTargetRPM, hcustom, hij]

theorem locally_deactivate : Locally (c := c) deactivateFeederMotor fun _ m => (0, m.2) := by
  intro f i j
  by_cases hij : j = i
  · simp [deactivateFeederMotor, motor, setTargetRPM, hij]
  · simp [deactivateFeederMotor, motor, setTargetRPM, hij]

theorem locally_unjam : Locally (c := c) unjamFeederMotor fun i m =>
    (-|c.FEEDER_UNJAM_RPMS i|, m.2) := by
  intro f i j
  by_cases hij : j = i
  · subst hij
    simp [unjamFeederMotor, motor, setTargetRPM]
  · simp [unjamFeederMotor, motor, setTargetRPM, hij]

theorem locally_customMulti (mul : ℚ) : Locally (c := c) (setFeederCustomMulti mul) fun i m =>
    if mul = 1 then (m.1, false) else (c.FEEDER_NORMAL_RPMS i * mul, true) := by
  intro f i j
  by_cases hij : j = i
  · subst hij
    by_cases hmul : mul = 1 <;>
      simp [setFeederCustomMulti, setFeederCustomStatus, motor, setTargetRPM, hmul]
  · by_cases hmul : mul = 1 <;>
      simp [setFeederCustomMulti, setFeederCustomStatus, motor, setTargetRPM, hmul, hij]

/-- **A group command** acts on each motor of the group. -/
theorem motor_forFeederMotorGroup
    {func : Fin c.FEEDER_MOTOR_COUNT → FeederSubsystem c → FeederSubsystem c}
    {g : Fin c.FEEDER_MOTOR_COUNT → ℚ × Bool → ℚ × Bool} (hlocal : Locally func g)
    (groupID : FeederGroup) (f : FeederSubsystem c) (j : Fin c.FEEDER_MOTOR_COUNT) :
    (f.forFeederMotorGroup groupID func).motor j =
      if groupID = .ALL ∨ c.FEEDER_MOTOR_GROUPS j = groupID then g j (f.motor j)
      else f.motor j := by
  -- the motors that come later in the list are as they were
  have key : ∀ (l : List (Fin c.FEEDER_MOTOR_COUNT)) (f : FeederSubsystem c), l.Nodup →
      (l.foldl (fun f i => if groupID = .ALL ∨ c.FEEDER_MOTOR_GROUPS i = groupID then func i f
        else f) f).motor j =
      if j ∈ l ∧ (groupID = .ALL ∨ c.FEEDER_MOTOR_GROUPS j = groupID) then g j (f.motor j)
      else f.motor j := by
    intro l
    induction l with
    | nil => simp
    | cons i l ih =>
      intro f hnodup
      obtain ⟨hi, hnodup⟩ := List.nodup_cons.1 hnodup
      rw [List.foldl_cons, ih _ hnodup]
      by_cases hij : j = i
      · subst hij
        by_cases hgroup : groupID = .ALL ∨ c.FEEDER_MOTOR_GROUPS j = groupID
        · simp [hi, hgroup, hlocal f j j]
        · simp [hgroup]
      · have hother : (if groupID = .ALL ∨ c.FEEDER_MOTOR_GROUPS i = groupID then func i f
            else f).motor j = f.motor j := by
          split_ifs
          · rw [hlocal, if_neg hij]
          · rfl
        simp [hother, hij]
  rw [forFeederMotorGroup, key _ f (List.nodup_finRange _)]
  simp

/-- Deactivating all motors stops the feeder. -/
theorem stopped_deactivate (f : FeederSubsystem c) :
    (f.forFeederMotorGroup .ALL deactivateFeederMotor).Stopped := fun i => by
  have hmotor := motor_forFeederMotorGroup locally_deactivate .ALL f i
  rw [if_pos (Or.inl rfl)] at hmotor
  exact congrArg Prod.fst hmotor

end FeederSubsystem

end Aimbots.Feeder
