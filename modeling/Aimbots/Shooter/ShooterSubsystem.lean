import Aimbots.Library.Run
import Aimbots.Tap.CommandScheduler
import Mathlib.Algebra.Order.Group.Int
import Mathlib.Algebra.Order.Group.Unbundled.Abs

/-!
# `shooter.cpp`, `brake_shooter_command.cpp` and `stop_shooter_comprised_command.cpp`

`getHighestMotorSpeed` is to return the signed speed of the motor that turns the fastest.  Its loop
compares the absolute value of each speed with the signed speed that it has kept, so that after a
negative one the next motor is taken in any case (`highest_eq_last_of_neg`), and a result below zero
passes for a slow one in `isFinished`.

`getHighestMotorSpeed_iff` says for which speeds the function and the command that asks it are
right, for any number of motors; `stop_scheduled_iff` and `NoFastSwitch` are about runs of the
command that brakes first and then stops.
-/

namespace Aimbots.Shooter

open Run Tap

/-- What is read from a motor of the shooter. -/
structure ShooterMotor where
  isMotorOnline : Bool
  getShaftRPM : ℤ
deriving DecidableEq, Repr

/-- One round of the loop of `getHighestMotorSpeed`, for a motor that is online. -/
def keepHigher (highestMotorSpeed motorSpeed : ℤ) : ℤ :=
  if |motorSpeed| > highestMotorSpeed then motorSpeed else highestMotorSpeed

/-- `getHighestMotorSpeed`. -/
def getHighestMotorSpeed (motors : List ShooterMotor) : ℤ :=
  motors.foldl (fun highestMotorSpeed motor =>
    if motor.isMotorOnline then keepHigher highestMotorSpeed motor.getShaftRPM
    else highestMotorSpeed) 0

/-- The speeds of the motors that are online, in order. -/
def onlineSpeeds (motors : List ShooterMotor) : List ℤ :=
  (motors.filter (·.isMotorOnline)).map (·.getShaftRPM)

/-- `BrakeShooterCommand::isFinished`. -/
def brakeIsFinished (motors : List ShooterMotor) : Bool :=
  decide (getHighestMotorSpeed motors < 1000)

/-- Every motor that is online turns slower than the tolerance. -/
def AllSlow (motors : List ShooterMotor) : Prop := ∀ s ∈ onlineSpeeds motors, |s| < 1000

instance (motors : List ShooterMotor) : Decidable (AllSlow motors) :=
  inferInstanceAs (Decidable (∀ s ∈ onlineSpeeds motors, |s| < 1000))

/-- What the result is to be: zero if no motor is online, and otherwise the speed of one of them, of
which the absolute value is the greatest. -/
def IsHighest (speeds : List ℤ) (r : ℤ) : Prop :=
  (speeds = [] → r = 0) ∧ (speeds ≠ [] → r ∈ speeds ∧ ∀ s ∈ speeds, |s| ≤ |r|)

/-- No motor is online; or one turns forward, none of them faster; or the last one turns backward,
none of them faster, and slower than the tolerance. -/
def ForwardOrLast (speeds : List ℤ) : Prop :=
  speeds = [] ∨ (∃ s ∈ speeds, ∀ t ∈ speeds, |t| ≤ s) ∨
    ∃ s, speeds.getLast? = some s ∧ (∀ t ∈ speeds, |t| ≤ -s) ∧ -1000 < s

/-! ### The loop -/

/-- The loop over the speeds of the motors that are online. -/
def highest (speeds : List ℤ) : ℤ := speeds.foldl keepHigher 0

theorem getHighestMotorSpeed_eq (motors : List ShooterMotor) :
    getHighestMotorSpeed motors = highest (onlineSpeeds motors) := by
  rw [highest, onlineSpeeds, List.foldl_map, List.foldl_filter]
  rfl

@[simp] theorem highest_nil : highest [] = 0 := rfl

theorem highest_concat (speeds : List ℤ) (s : ℤ) :
    highest (speeds ++ [s]) = keepHigher (highest speeds) s := by
  simp [highest]

/-- No speed replaces one that is at least its absolute value. -/
theorem foldl_keepHigher_of_le {h : ℤ} {speeds : List ℤ} (hle : ∀ s ∈ speeds, |s| ≤ h) :
    speeds.foldl keepHigher h = h := by
  induction speeds with
  | nil => rfl
  | cons s speeds ih =>
    obtain ⟨hs, hrest⟩ := List.forall_mem_cons.1 hle
    rw [List.foldl_cons, keepHigher, if_neg (not_lt.2 hs)]
    exact ih hrest

theorem highest_mem (speeds : List ℤ) : highest speeds = 0 ∨ highest speeds ∈ speeds := by
  induction speeds using List.reverseRecOn with
  | nil => exact Or.inl rfl
  | append_singleton speeds s ih =>
    rw [highest_concat, keepHigher]
    split_ifs
    · simp
    · exact ih.imp_right fun h => List.mem_append_left _ h

/-- The speeds bound the one that the loop keeps. -/
theorem highest_le {speeds : List ℤ} {bound : ℤ} (hbound : 0 ≤ bound)
    (hle : ∀ s ∈ speeds, |s| ≤ bound) : highest speeds ≤ bound := by
  rcases highest_mem speeds with hzero | hmem
  · exact hzero ▸ hbound
  · exact (le_abs_self _).trans (hle _ hmem)

/-- A motor that turns forward, none of them faster, is found. -/
theorem highest_eq_of_forward {speeds : List ℤ} {s : ℤ} (hs : s ∈ speeds)
    (hmax : ∀ t ∈ speeds, |t| ≤ s) : highest speeds = s := by
  obtain ⟨before, rest, rfl⟩ := List.append_of_mem hs
  have hpos : 0 ≤ s := (abs_nonneg s).trans (hmax s hs)
  have hbefore : highest before ≤ s :=
    highest_le hpos fun t ht => hmax t (List.mem_append_left _ ht)
  have hkeep : keepHigher (highest before) s = s := by
    rw [keepHigher, abs_of_nonneg hpos]
    split_ifs with hlt
    · rfl
    · exact le_antisymm hbefore (not_lt.1 hlt)
  rw [highest, List.foldl_append, List.foldl_cons, ← highest, hkeep]
  exact foldl_keepHigher_of_le fun t ht =>
    hmax t (List.mem_append_right _ (List.mem_cons_of_mem _ ht))

/-- A result below zero is the speed of the last motor, whatever the others do. -/
theorem highest_eq_last_of_neg {speeds : List ℤ} (hneg : highest speeds < 0) :
    speeds.getLast? = some (highest speeds) := by
  induction speeds using List.reverseRecOn with
  | nil => exact absurd hneg (lt_irrefl 0)
  | append_singleton speeds s ih =>
    rw [highest_concat, keepHigher] at hneg ⊢
    split_ifs at hneg ⊢ with hlt
    · exact List.getLast?_concat
    · exact absurd ((abs_nonneg s).trans (not_lt.1 hlt)) (not_le.2 hneg)

/-- The last motor turns backward, none of them faster: the result is its speed, or that of a motor
that turns forward as fast. -/
theorem highest_of_last {speeds : List ℤ} {s : ℤ} (hlast : speeds.getLast? = some s)
    (hmax : ∀ t ∈ speeds, |t| ≤ -s) :
    (highest speeds = s ∨ highest speeds = -s) ∧ highest speeds ∈ speeds := by
  obtain ⟨before, rfl⟩ := List.getLast?_eq_some_iff.1 hlast
  have hs : |s| ≤ -s := hmax s (by simp)
  have habs : |s| = -s := le_antisymm hs (neg_le_abs s)
  have hbefore : highest before ≤ -s :=
    highest_le ((abs_nonneg s).trans hs) fun t ht => hmax t (List.mem_append_left _ ht)
  rw [highest_concat, keepHigher, habs]
  split_ifs with hlt
  · exact ⟨Or.inl rfl, by simp⟩
  · have heq : highest before = -s := le_antisymm hbefore (not_lt.1 hlt)
    refine ⟨Or.inr heq, ?_⟩
    rcases highest_mem before with hzero | hmem
    · have : s = 0 := by omega
      simp [hzero, this]
    · exact List.mem_append_left _ hmem

/-- **When the loop is right**, and a result below the tolerance means that every motor is slow. -/
theorem highest_iff (speeds : List ℤ) :
    (IsHighest speeds (highest speeds) ∧ (highest speeds < 1000 → ∀ s ∈ speeds, |s| < 1000)) ↔
      ForwardOrLast speeds := by
  constructor
  · rintro ⟨⟨-, hhighest⟩, hslow⟩
    by_cases hnil : speeds = []
    · exact Or.inl hnil
    · obtain ⟨hmem, hmax⟩ := hhighest hnil
      rcases lt_or_ge (highest speeds) 0 with hneg | hpos
      · rw [abs_of_neg hneg] at hmax
        have hlt := hslow (by omega) _ hmem
        rw [abs_of_neg hneg] at hlt
        exact Or.inr (Or.inr ⟨_, highest_eq_last_of_neg hneg, hmax, by omega⟩)
      · rw [abs_of_nonneg hpos] at hmax
        exact Or.inr (Or.inl ⟨_, hmem, hmax⟩)
  · rintro (rfl | ⟨s, hs, hmax⟩ | ⟨s, hlast, hmax, hlt⟩)
    · exact ⟨⟨fun _ => rfl, fun h => absurd rfl h⟩, fun _ s hs => absurd hs List.not_mem_nil⟩
    · have heq := highest_eq_of_forward hs hmax
      rw [heq]
      refine ⟨⟨fun h => ?_, fun _ => ⟨hs, fun t ht => (hmax t ht).trans (le_abs_self s)⟩⟩,
        fun hlt t ht => (hmax t ht).trans_lt hlt⟩
      rw [h] at hs
      exact absurd hs List.not_mem_nil
    · obtain ⟨heq, hmem⟩ := highest_of_last hlast hmax
      have habs : |highest speeds| = |s| := by
        rcases heq with heq | heq <;> rw [heq]
        exact abs_neg s
      refine ⟨⟨fun h => ?_, fun _ => ⟨hmem, fun t ht => ?_⟩⟩, fun _ t ht => ?_⟩
      · rw [h] at hmem
        exact absurd hmem List.not_mem_nil
      · rw [habs]
        exact (hmax t ht).trans (neg_le_abs s)
      · exact (hmax t ht).trans_lt (by omega)

/-! ### The command that brakes first -/

/-- The commands of a `StopShooterComprisedCommand`. -/
inductive ShooterCommand
  | brake_command
  | stop_command
deriving DecidableEq

/-- `StopShooterComprisedCommand`, with the output that it has set for every motor. -/
structure StopShooterComprisedCommand where
  comprisedCommandScheduler : CommandScheduler ShooterCommand Unit
  brakeFinished : Bool
  desiredOutput : ℤ

/-- The value of `brakePID`, which is proportional only: the power is 500, and the limit 2000. -/
def brakeOutput (motors : List ShooterMotor) : ℤ :=
  let output := 500 * -getHighestMotorSpeed motors
  if output > 2000 then 2000 else if output < -2000 then -2000 else output

namespace StopShooterComprisedCommand

/-- `comprisedCommandScheduler.addCommand`. -/
def addCommand (c : StopShooterComprisedCommand) (command : ShooterCommand) :
    StopShooterComprisedCommand :=
  { c with
    comprisedCommandScheduler :=
      c.comprisedCommandScheduler.addCommand (.single ShooterCommand) command }

/-- `initialize`. -/
def init (c : StopShooterComprisedCommand) : StopShooterComprisedCommand :=
  { c.addCommand .brake_command with brakeFinished := false }

/-- A command is scheduled. -/
def Scheduled (c : StopShooterComprisedCommand) (command : ShooterCommand) : Prop :=
  command ∈ c.comprisedCommandScheduler.addedCommandBitmap

instance (c : StopShooterComprisedCommand) (command : ShooterCommand) :
    Decidable (c.Scheduled command) :=
  inferInstanceAs (Decidable (_ ∈ _))

/-- `comprisedCommandScheduler.run`: the scheduled commands set the outputs, and the brake command
is removed when it is finished. -/
def run (c : StopShooterComprisedCommand) (motors : List ShooterMotor) :
    StopShooterComprisedCommand where
  comprisedCommandScheduler := c.comprisedCommandScheduler.removeFinished fun
    | .brake_command => brakeIsFinished motors
    | .stop_command => false
  brakeFinished := c.brakeFinished
  desiredOutput :=
    if c.Scheduled .stop_command then 0
    else if c.Scheduled .brake_command then brakeOutput motors
    else c.desiredOutput

/-- `execute`. -/
def execute (c : StopShooterComprisedCommand) (motors : List ShooterMotor) :
    StopShooterComprisedCommand :=
  let c :=
    if brakeIsFinished motors && !c.brakeFinished then
      { c.addCommand .stop_command with brakeFinished := true }
    else c
  c.run motors

/-! ### Runs of the command -/

/-- The command that is scheduled while the command runs. -/
def current (c : StopShooterComprisedCommand) : ShooterCommand :=
  if c.brakeFinished then .stop_command else .brake_command

/-- One command is scheduled, the one that the flag says. -/
structure Inv (c : StopShooterComprisedCommand) : Prop where
  single : c.comprisedCommandScheduler.Single
  scheduled : c.comprisedCommandScheduler.addedCommandBitmap = {c.current}

variable {c : StopShooterComprisedCommand} {motors : List ShooterMotor}

theorem Inv.scheduled_iff (h : c.Inv) (command : ShooterCommand) :
    c.Scheduled command ↔ command = c.current := by
  rw [Scheduled, h.scheduled, Finset.mem_singleton]

theorem inv_init (h : c.comprisedCommandScheduler.Single) : c.init.Inv :=
  ⟨h.single_add .brake_command, h.addCommand .brake_command⟩

/-- The commands that are scheduled and not finished. -/
theorem scheduled_run (c : StopShooterComprisedCommand) (motors : List ShooterMotor)
    (command : ShooterCommand) :
    (c.run motors).Scheduled command ↔
      c.Scheduled command ∧ (command = .brake_command → brakeIsFinished motors = false) := by
  rw [Scheduled, run, CommandScheduler.removeFinished, Finset.mem_filter, Scheduled]
  cases command <;> simp

/-- `run` leaves the one command, if it is not a brake that is finished. -/
theorem Inv.run (h : c.Inv) (hbrake : brakeIsFinished motors = true → c.brakeFinished = true) :
    (c.run motors).Inv := by
  refine ⟨h.single.single_removeFinished _, ?_⟩
  ext command
  change (c.run motors).Scheduled command ↔ command ∈ {c.current}
  rw [scheduled_run, h.scheduled_iff, Finset.mem_singleton, and_iff_left_iff_imp]
  rintro rfl hcurrent
  cases hfinished : brakeIsFinished motors with
  | false => rfl
  | true => simp [current, hbrake hfinished] at hcurrent

/-- **What `execute` does**: it goes on to the stop command once the brake is finished, and sets the
output of the command that is then scheduled. -/
theorem Inv.execute (h : c.Inv) (motors : List ShooterMotor) :
    (c.execute motors).Inv ∧
      (c.execute motors).brakeFinished = (c.brakeFinished || brakeIsFinished motors) ∧
      (c.execute motors).desiredOutput =
        if (c.execute motors).brakeFinished then 0 else brakeOutput motors := by
  by_cases hswitch : (brakeIsFinished motors && !c.brakeFinished) = true
  · let switched : StopShooterComprisedCommand :=
      { c.addCommand .stop_command with brakeFinished := true }
    have hexecute : c.execute motors = switched.run motors := by
      rw [StopShooterComprisedCommand.execute, if_pos hswitch]
    obtain ⟨hbrake, -⟩ := Bool.and_eq_true_iff.1 hswitch
    have hstop : switched.Inv :=
      ⟨h.single.single_add .stop_command, h.single.addCommand .stop_command⟩
    rw [hexecute]
    refine ⟨hstop.run fun _ => rfl, by simp [StopShooterComprisedCommand.run, switched, hbrake], ?_⟩
    exact if_pos ((hstop.scheduled_iff _).2 rfl)
  · have hexecute : c.execute motors = c.run motors := by
      rw [StopShooterComprisedCommand.execute, if_neg hswitch]
    have hfinished : brakeIsFinished motors = true → c.brakeFinished = true := by
      intro hbrake
      simpa [hbrake] using hswitch
    rw [hexecute]
    refine ⟨h.run hfinished, ?_, ?_⟩
    · change c.brakeFinished = _
      cases hbrake : brakeIsFinished motors with
      | false => simp
      | true => simp [hfinished hbrake]
    · change ite _ _ _ = ite (c.brakeFinished = true) _ _
      cases hflag : c.brakeFinished <;> simp [h.scheduled_iff, current, hflag]

/-- **The stop command is scheduled** if and only if the brake was found finished by some
`execute`. -/
theorem stop_scheduled_iff (h : c.comprisedCommandScheduler.Single)
    (readings : List (List ShooterMotor)) :
    (after StopShooterComprisedCommand.execute c.init readings).Scheduled .stop_command ↔
      ∃ motors ∈ readings, brakeIsFinished motors = true := by
  have hrun : ∀ c : StopShooterComprisedCommand, c.Inv →
      (after StopShooterComprisedCommand.execute c readings).Inv ∧
        ((after StopShooterComprisedCommand.execute c readings).brakeFinished = true ↔
          c.brakeFinished = true ∨ ∃ motors ∈ readings, brakeIsFinished motors = true) := by
    induction readings with
    | nil => exact fun c hc => ⟨hc, by simp⟩
    | cons motors readings ih =>
      intro c hc
      obtain ⟨hinv, hflag, -⟩ := hc.execute motors
      obtain ⟨hinv', hiff⟩ := ih _ hinv
      exact ⟨hinv', by rw [after_cons, hiff, hflag]; simp [or_assoc]⟩
  obtain ⟨hinv, hiff⟩ := hrun c.init (inv_init h)
  rw [hinv.scheduled_iff, current]
  refine Iff.trans ?_ (hiff.trans (or_iff_right Bool.false_ne_true))
  cases (after StopShooterComprisedCommand.execute c.init readings).brakeFinished <;> simp

/-- An `execute` does not go on to the stop command while a wheel is fast. -/
def NoFastSwitch (c : StopShooterComprisedCommand) (motors : List ShooterMotor) : Prop :=
  ¬ c.Scheduled .stop_command → (c.execute motors).Scheduled .stop_command → AllSlow motors

instance (c : StopShooterComprisedCommand) (motors : List ShooterMotor) :
    Decidable (c.NoFastSwitch motors) :=
  inferInstanceAs (Decidable (¬ _ → _ → AllSlow motors))

/-- An `execute` that goes on to the stop command has found the brake finished. -/
theorem brakeIsFinished_of_switch (hstop : ¬ c.Scheduled .stop_command)
    (hswitch : (c.execute motors).Scheduled .stop_command) : brakeIsFinished motors = true := by
  by_contra hbrake
  rw [Bool.not_eq_true] at hbrake
  rw [StopShooterComprisedCommand.execute, hbrake, Bool.false_and,
    if_neg Bool.false_ne_true] at hswitch
  exact hstop ((scheduled_run c motors _).1 hswitch).1

end StopShooterComprisedCommand

/-- The brake is right about the motors. -/
theorem brake_iff (motors : List ShooterMotor) :
    (IsHighest (onlineSpeeds motors) (getHighestMotorSpeed motors) ∧
        (brakeIsFinished motors = true → AllSlow motors)) ↔
      ForwardOrLast (onlineSpeeds motors) := by
  rw [brakeIsFinished, decide_eq_true_iff, getHighestMotorSpeed_eq, AllSlow]
  exact highest_iff (onlineSpeeds motors)

open StopShooterComprisedCommand in
/-- **When the flywheels are braked to a stop.**  The highest speed is right, and the brake finished
for slow wheels only, exactly if one of the fastest wheels turns forward, or the last wheel is one
of the fastest and slow, or none is online; and a run of the command in which the wheels are always
so does not go on to the stop command while a wheel is fast. -/
theorem getHighestMotorSpeed_iff (c : StopShooterComprisedCommand)
    (readings : List (List ShooterMotor)) :
    (∀ motors, (IsHighest (onlineSpeeds motors) (getHighestMotorSpeed motors) ∧
        (brakeIsFinished motors = true → AllSlow motors)) ↔
      ForwardOrLast (onlineSpeeds motors)) ∧
    ((∀ motors ∈ readings, ForwardOrLast (onlineSpeeds motors)) →
      Each execute NoFastSwitch c.init readings) := by
  refine ⟨brake_iff, fun hreadings => each_iff_forall.2 ?_⟩
  rintro before motors rest rfl hstop hswitch
  exact ((brake_iff motors).2 (hreadings motors (by simp))).2
    (brakeIsFinished_of_switch hstop hswitch)

open StopShooterComprisedCommand in
/-- A run in which the fastest wheel turns forward, until both have stopped. -/
theorem getHighestMotorSpeed_iff_forward :
    Each execute NoFastSwitch (init ⟨.construct _, false, 0⟩)
      [[⟨true, 6000⟩, ⟨true, -5000⟩], [⟨true, 0⟩, ⟨true, -900⟩]] := by
  refine (getHighestMotorSpeed_iff _ _).2
    (List.forall_mem_cons.2 ⟨?_, List.forall_mem_singleton.2 ?_⟩)
  · exact Or.inr (Or.inl ⟨6000, by decide, by decide⟩)
  · exact Or.inr (Or.inr ⟨-900, by decide, by decide, by decide⟩)

open StopShooterComprisedCommand in
/-- Two wheels that turn backward, and one that comes before a slow one. -/
theorem getHighestMotorSpeed_backward :
    ¬ Each execute NoFastSwitch (init ⟨.construct _, false, 0⟩) [[⟨true, -7000⟩, ⟨true, -7000⟩]] ∧
      ¬ IsHighest (onlineSpeeds [⟨true, -7000⟩, ⟨true, 20⟩])
        (getHighestMotorSpeed [⟨true, -7000⟩, ⟨true, 20⟩]) := by
  refine ⟨by decide, fun h => ?_⟩
  have hmax := (h.2 (by decide)).2 (-7000) (by decide)
  exact absurd hmax (by decide)

end Aimbots.Shooter
