import Aimbots.Library.Run
import Aimbots.Tap.CommandScheduler
import Aimbots.Tap.Timeout

/-!
# `chassis_toggle_drive_command.cpp`

The driver toggles with F between following the gimbal and spinning, to the left or to the right if
Q or E has been pressed shortly before.  The clock is read once in a call.

`initialize` sets the timers of Q and E but not `wasFPressed`, so that a press of F in one
activation and its release in the next one toggle the mode: `toggles_iff`.
-/

namespace Aimbots.Chassis

open Tap Run

/-- The commands that the scheduler of the command has; all require the chassis. -/
inductive DriveCommand
  | followGimbalCommand
  | tokyoCommand
  | tokyoLeftCommand
  | tokyoRightCommand
deriving DecidableEq, Repr

/-- What an `execute` reads: the clock and the keys that are pressed. -/
structure DriveReading where
  now : UInt32
  keyF : Bool
  keyQ : Bool
  keyE : Bool
deriving DecidableEq, Repr

/-- The data members of `ChassisToggleDriveCommand` that it works with. -/
structure ChassisToggleDriveCommand where
  comprisedCommandScheduler : CommandScheduler DriveCommand Unit
  wasFPressed : Bool
  preferSpecificSpin : Bool
  qPressed : Timeout
  ePressed : Timeout

namespace ChassisToggleDriveCommand

/-- The constructor. -/
def construct : ChassisToggleDriveCommand :=
  ⟨.construct DriveCommand, false, false, .stopped, .stopped⟩

variable (cmd : ChassisToggleDriveCommand)

/-- `scheduleIfNotScheduled`, with the command's scheduler. -/
def schedule (command : DriveCommand) : ChassisToggleDriveCommand :=
  { cmd with
    comprisedCommandScheduler :=
      cmd.comprisedCommandScheduler.scheduleIfNotScheduled (.single DriveCommand) command }

/-- `descheduleIfScheduled`, with the command's scheduler. -/
def deschedule (command : DriveCommand) : ChassisToggleDriveCommand :=
  { cmd with
    comprisedCommandScheduler := cmd.comprisedCommandScheduler.descheduleIfScheduled command }

/-- `initialize`. -/
def init (now : UInt32) : ChassisToggleDriveCommand :=
  { cmd.schedule .followGimbalCommand with
    qPressed := cmd.qPressed.restart now 0
    ePressed := cmd.ePressed.restart now 0 }

/-- The part of `execute` that looks at the keys. -/
def press (r : DriveReading) : ChassisToggleDriveCommand :=
  { cmd with
    wasFPressed := r.keyF || cmd.wasFPressed
    ePressed := if r.keyE then cmd.ePressed.restart r.now 800 else cmd.ePressed
    qPressed := if r.keyQ then cmd.qPressed.restart r.now 800 else cmd.qPressed }

/-- The choice of a spin. -/
def spin (now : UInt32) : ChassisToggleDriveCommand :=
  if cmd.preferSpecificSpin then
    let cmd := if !cmd.ePressed.isExpired now then cmd.schedule .tokyoRightCommand else cmd
    if !cmd.qPressed.isExpired now then cmd.schedule .tokyoLeftCommand else cmd
  else cmd.schedule .tokyoCommand

/-- The part of `execute` that toggles the mode. -/
def toggle (now : UInt32) : ChassisToggleDriveCommand :=
  let cmd :=
    { cmd with
      wasFPressed := false
      preferSpecificSpin := !cmd.ePressed.isExpired now || !cmd.qPressed.isExpired now }
  if cmd.comprisedCommandScheduler.isCommandScheduled .followGimbalCommand then cmd.spin now
  else if cmd.comprisedCommandScheduler.isCommandScheduled .tokyoCommand ||
      cmd.comprisedCommandScheduler.isCommandScheduled .tokyoLeftCommand ||
      cmd.comprisedCommandScheduler.isCommandScheduled .tokyoRightCommand then
    { cmd with
      comprisedCommandScheduler :=
        cmd.comprisedCommandScheduler.addCommand (.single DriveCommand) .followGimbalCommand }
  else cmd

/-- `execute`. -/
def execute (r : DriveReading) : ChassisToggleDriveCommand :=
  let cmd := cmd.press r
  if cmd.wasFPressed && !r.keyF then cmd.toggle r.now else cmd

/-- `end`. -/
def finish : ChassisToggleDriveCommand :=
  (((cmd.deschedule .followGimbalCommand).deschedule .tokyoCommand).deschedule
    .tokyoLeftCommand).deschedule .tokyoRightCommand

/-! ### The mode -/

/-- The command is the only one that is scheduled. -/
def Mode (command : DriveCommand) : Prop :=
  cmd.comprisedCommandScheduler.addedCommandBitmap = {command}

instance (command : DriveCommand) : Decidable (cmd.Mode command) :=
  inferInstanceAs (Decidable (cmd.comprisedCommandScheduler.addedCommandBitmap = {command}))

variable {cmd} {command : DriveCommand}

theorem Mode.isCommandScheduled (h : cmd.Mode command) (other : DriveCommand) :
    cmd.comprisedCommandScheduler.isCommandScheduled other = decide (other = command) := by
  rw [CommandScheduler.isCommandScheduled, h]
  simp only [Finset.mem_singleton]

theorem Mode.eq {other : DriveCommand} (h : cmd.Mode command) (h' : cmd.Mode other) :
    command = other := Finset.singleton_injective (h.symm.trans h')

theorem mode_schedule (h : cmd.comprisedCommandScheduler.Single) (command : DriveCommand) :
    (cmd.schedule command).Mode command := h.scheduleIfNotScheduled command

/-- The choice by what the timers say. -/
theorem spin_eq {now : UInt32}
    (hprefer : cmd.preferSpecificSpin =
      (!cmd.ePressed.isExpired now || !cmd.qPressed.isExpired now)) :
    cmd.spin now =
      if cmd.qPressed.isExpired now = false then
        if cmd.ePressed.isExpired now = false then
          (cmd.schedule .tokyoRightCommand).schedule .tokyoLeftCommand
        else cmd.schedule .tokyoLeftCommand
      else if cmd.ePressed.isExpired now = false then cmd.schedule .tokyoRightCommand
      else cmd.schedule .tokyoCommand := by
  have hkept : (cmd.schedule .tokyoRightCommand).qPressed = cmd.qPressed := rfl
  unfold spin
  cases he : cmd.ePressed.isExpired now <;> cases hq : cmd.qPressed.isExpired now <;>
    simp [hprefer, he, hq, hkept]

/-- **A spin** is to the left or to the right only if the timer of Q or E runs. -/
theorem spin_mode (h : cmd.comprisedCommandScheduler.Single) {now : UInt32}
    (hprefer : cmd.preferSpecificSpin =
      (!cmd.ePressed.isExpired now || !cmd.qPressed.isExpired now)) :
    ∃ command, command ≠ .followGimbalCommand ∧ (cmd.spin now).Mode command ∧
      (command = .tokyoLeftCommand → cmd.qPressed.isExpired now = false) ∧
      (command = .tokyoRightCommand → cmd.ePressed.isExpired now = false) := by
  have hright : (cmd.schedule .tokyoRightCommand).comprisedCommandScheduler.Single :=
    h.single_schedule .tokyoRightCommand
  rw [spin_eq hprefer]
  split_ifs with hq he he
  · exact ⟨.tokyoLeftCommand, by decide, mode_schedule hright _, fun _ => hq, (nomatch ·)⟩
  · exact ⟨.tokyoLeftCommand, by decide, mode_schedule h _, fun _ => hq, (nomatch ·)⟩
  · exact ⟨.tokyoRightCommand, by decide, mode_schedule h _, (nomatch ·), fun _ => he⟩
  · exact ⟨.tokyoCommand, by decide, mode_schedule h _, (nomatch ·), (nomatch ·)⟩

/-- **A toggle** takes the mode from following the gimbal to a spin. -/
theorem toggle_of_follow (h : cmd.comprisedCommandScheduler.Single)
    (hmode : cmd.Mode .followGimbalCommand) (now : UInt32) :
    ∃ command, command ≠ .followGimbalCommand ∧ (cmd.toggle now).Mode command ∧
      (command = .tokyoLeftCommand → cmd.qPressed.isExpired now = false) ∧
      (command = .tokyoRightCommand → cmd.ePressed.isExpired now = false) := by
  have hscheduled : cmd.comprisedCommandScheduler.isCommandScheduled .followGimbalCommand = true :=
    hmode.isCommandScheduled _
  unfold toggle
  dsimp only
  rw [if_pos hscheduled]
  exact @spin_mode { cmd with
    wasFPressed := false
    preferSpecificSpin := !cmd.ePressed.isExpired now || !cmd.qPressed.isExpired now } h now rfl

/-- **A toggle** takes the mode from a spin back to following the gimbal. -/
theorem toggle_of_spin (h : cmd.comprisedCommandScheduler.Single) (hmode : cmd.Mode command)
    (hspin : command ≠ .followGimbalCommand) (now : UInt32) :
    (cmd.toggle now).Mode .followGimbalCommand := by
  have hscheduled := hmode.isCommandScheduled
  unfold toggle
  dsimp only
  rw [if_neg (by rw [hscheduled]; simpa using hspin.symm), if_pos]
  · exact h.addCommand .followGimbalCommand
  · rw [hscheduled, hscheduled, hscheduled]
    cases command with
    | followGimbalCommand => exact absurd rfl hspin
    | tokyoCommand | tokyoLeftCommand | tokyoRightCommand => decide

/-! ### What an `execute` does -/

theorem execute_of_released {r : DriveReading} (hpressed : cmd.wasFPressed = true)
    (hreleased : r.keyF = false) : cmd.execute r = (cmd.press r).toggle r.now := by
  have hlatch : (cmd.press r).wasFPressed = true := by rw [press, hreleased, hpressed]; rfl
  unfold execute
  dsimp only
  rw [hlatch, hreleased]
  rfl

theorem execute_of_not_released {r : DriveReading}
    (h : cmd.wasFPressed = false ∨ r.keyF = true) : cmd.execute r = cmd.press r := by
  have hlatch : ((cmd.press r).wasFPressed && !r.keyF) = false := by
    unfold press
    rcases h with hlatch | hF
    · rw [hlatch, Bool.or_false, Bool.and_not_self]
    · rw [hF, Bool.not_true, Bool.and_false]
  unfold execute
  dsimp only
  rw [hlatch, if_neg Bool.false_ne_true]

/-- What a toggle leaves as it is. -/
theorem toggle_kept (now : UInt32) :
    (cmd.toggle now).wasFPressed = false ∧ (cmd.toggle now).qPressed = cmd.qPressed ∧
      (cmd.toggle now).ePressed = cmd.ePressed := by
  unfold toggle spin
  dsimp only
  split_ifs <;> exact ⟨rfl, rfl, rfl⟩

theorem single_toggle (h : cmd.comprisedCommandScheduler.Single) (now : UInt32) :
    (cmd.toggle now).comprisedCommandScheduler.Single := by
  have hspin : ∀ {cmd : ChassisToggleDriveCommand}, cmd.comprisedCommandScheduler.Single →
      (cmd.spin now).comprisedCommandScheduler.Single := by
    intro cmd h
    have hright := h.single_schedule .tokyoRightCommand
    unfold spin
    dsimp only
    split_ifs
    · exact hright.single_schedule _
    · exact hright
    · exact h.single_schedule _
    · exact h
    · exact h.single_schedule _
  unfold toggle
  dsimp only
  split_ifs
  · exact hspin h
  · exact h.single_add _
  · exact h

/-- **After an `execute`** the latch says whether it saw F pressed, and the timers are those that
the keys have set. -/
theorem execute_kept (cmd : ChassisToggleDriveCommand) (r : DriveReading) :
    (cmd.execute r).wasFPressed = r.keyF ∧ (cmd.execute r).qPressed = (cmd.press r).qPressed ∧
      (cmd.execute r).ePressed = (cmd.press r).ePressed := by
  by_cases h : cmd.wasFPressed = false ∨ r.keyF = true
  · rw [execute_of_not_released h]
    refine ⟨?_, rfl, rfl⟩
    unfold press
    rcases h with h | h
    · rw [h, Bool.or_false]
    · rw [h, Bool.true_or]
  · rw [not_or, Bool.not_eq_false, Bool.not_eq_true] at h
    obtain ⟨hlatch, hq, he⟩ := (cmd.press r).toggle_kept r.now
    rw [execute_of_released h.1 h.2, h.2]
    exact ⟨hlatch, hq, he⟩

theorem single_execute (h : cmd.comprisedCommandScheduler.Single) (r : DriveReading) :
    (cmd.execute r).comprisedCommandScheduler.Single := by
  unfold execute
  dsimp only
  split_ifs
  · exact @single_toggle (cmd.press r) h r.now
  · exact h

/-- A toggle changes the mode. -/
theorem not_mode_toggle (h : cmd.comprisedCommandScheduler.Single) (hmode : cmd.Mode command)
    (now : UInt32) : ¬ (cmd.toggle now).Mode command := by
  intro hsame
  by_cases hfollow : command = .followGimbalCommand
  · subst hfollow
    obtain ⟨command, hspin, hmode', -⟩ := toggle_of_follow h hmode now
    exact hspin (hmode'.eq hsame)
  · exact hfollow (hsame.eq (toggle_of_spin h hmode hfollow now))

/-- Some mode follows every mode. -/
theorem mode_execute (h : cmd.comprisedCommandScheduler.Single) (hmode : cmd.Mode command)
    (r : DriveReading) : ∃ command, (cmd.execute r).Mode command := by
  by_cases hkept : cmd.wasFPressed = false ∨ r.keyF = true
  · rw [execute_of_not_released hkept]
    exact ⟨command, hmode⟩
  · rw [not_or, Bool.not_eq_false, Bool.not_eq_true] at hkept
    rw [execute_of_released hkept.1 hkept.2]
    by_cases hfollow : command = .followGimbalCommand
    · subst hfollow
      obtain ⟨command, -, hmode', -⟩ := @toggle_of_follow (cmd.press r) h hmode r.now
      exact ⟨command, hmode'⟩
    · exact ⟨.followGimbalCommand, @toggle_of_spin (cmd.press r) command h hmode hfollow r.now⟩

theorem single_deschedule (h : cmd.comprisedCommandScheduler.Single) (command : DriveCommand) :
    (cmd.deschedule command).comprisedCommandScheduler.Single := h.single_deschedule command

theorem single_finish (h : cmd.comprisedCommandScheduler.Single) :
    cmd.finish.comprisedCommandScheduler.Single :=
  single_deschedule (single_deschedule (single_deschedule (single_deschedule h _) _) _) _

@[simp] theorem wasFPressed_deschedule (command : DriveCommand) :
    (cmd.deschedule command).wasFPressed = cmd.wasFPressed := rfl

theorem wasFPressed_finish : cmd.finish.wasFPressed = cmd.wasFPressed := by simp [finish]

/-- A key was pressed in a reading of the list. -/
def PressedAt (key : DriveReading → Bool) (seen : List DriveReading) (time : UInt32) : Prop :=
  ∃ past ∈ seen, key past = true ∧ past.now = time

/-- A timer that every press of a key sets. -/
theorem setWith_press {key : DriveReading → Bool} {t : Timeout} {seen : List DriveReading}
    {clock : UInt32} {r : DriveReading} (h : t.SetWith (PressedAt key seen) 800 clock)
    (hclock : clock ≤ r.now) :
    (if key r then t.restart r.now 800 else t).SetWith (PressedAt key (r :: seen)) 800 r.now := by
  split_ifs with hkey
  · exact t.setWith_restart ⟨r, List.mem_cons_self, hkey, rfl⟩
  · exact h.mono hclock fun _ => List.exists_mem_cons_of_exists

end ChassisToggleDriveCommand

open ChassisToggleDriveCommand

/-! ### Runs -/

/-- A call that reaches the command. -/
inductive DriveEvent
  | init (now : UInt32)
  | execute (r : DriveReading)
  | finish
deriving DecidableEq, Repr

/-- The command, whether it has been initialised and not ended since, what the clock last said, the
readings of the `execute`s since the last `initialize`, the last one first, and whether the last
`execute` of all saw F pressed. -/
structure DriveRun where
  command : ChassisToggleDriveCommand
  active : Bool
  clock : UInt32
  seen : List DriveReading
  lastF : Bool

namespace DriveRun

/-- Before the first call. -/
def start : DriveRun := ⟨.construct, false, 0, [], false⟩

/-- One call. -/
def next (run : DriveRun) : DriveEvent → DriveRun
  | .init now => ⟨run.command.init now, true, now, [], run.lastF⟩
  | .execute r => ⟨run.command.execute r, run.active, r.now, r :: run.seen, r.keyF⟩
  | .finish => { run with command := run.command.finish, active := false }

/-- The clock does not go back. -/
def Ordered (run : DriveRun) : DriveEvent → Prop
  | .init now => run.clock ≤ now
  | .execute r => run.clock ≤ r.now
  | .finish => True

instance (run : DriveRun) : ∀ e, Decidable (run.Ordered e)
  | .init now => inferInstanceAs (Decidable (run.clock ≤ now))
  | .execute r => inferInstanceAs (Decidable (run.clock ≤ r.now))
  | .finish => isTrue trivial

/-- An `execute` sees F released after the one before it, in the same activation, saw it pressed. -/
def Releases (run : DriveRun) (r : DriveReading) : Prop :=
  r.keyF = false ∧ ∃ past, run.seen.head? = some past ∧ past.keyF = true

/-- A key was pressed less than 800 ms ago, in the same activation. -/
def Recent (key : DriveReading → Bool) (run : DriveRun) (r : DriveReading) : Prop :=
  ∃ past ∈ r :: run.seen, key past = true ∧ past.now ≤ r.now ∧ r.now - past.now < 800

/-- **The toggling**: `initialize` leaves the mode at following the gimbal; a press and a release of
F take it from there to a spin, or back from a spin, and nothing else does. -/
def Toggles (run : DriveRun) : DriveEvent → Prop
  | .init now => (run.command.init now).Mode .followGimbalCommand
  | .execute r => run.active = true →
      (run.Releases r →
        (run.command.Mode .followGimbalCommand →
          ∃ command, command ≠ .followGimbalCommand ∧ (run.command.execute r).Mode command ∧
            (command = .tokyoLeftCommand → run.Recent DriveReading.keyQ r) ∧
            (command = .tokyoRightCommand → run.Recent DriveReading.keyE r)) ∧
        ∀ command, command ≠ .followGimbalCommand → run.command.Mode command →
          (run.command.execute r).Mode .followGimbalCommand) ∧
      (¬ run.Releases r → ∀ command, run.command.Mode command →
        (run.command.execute r).Mode command)
  | .finish => True

/-- No two commands are scheduled. -/
def AtMostOne (run : DriveRun) : Prop :=
  ∀ first ∈ run.command.comprisedCommandScheduler.addedCommandBitmap,
    ∀ second ∈ run.command.comprisedCommandScheduler.addedCommandBitmap, first = second

/-- The first `execute` of an activation does not see F released if the last one before the
activation saw it pressed. -/
def Fresh (run : DriveRun) : DriveEvent → Prop
  | .execute r => run.active = true → run.seen = [] → run.lastF = true → r.keyF = true
  | .init _ | .finish => True

/-- What holds in every run. -/
structure Inv (run : DriveRun) : Prop where
  single : run.command.comprisedCommandScheduler.Single
  latch : run.command.wasFPressed = run.lastF
  seen : ∀ past, run.seen.head? = some past → past.keyF = run.lastF
  mode : run.active = true → ∃ command, run.command.Mode command
  keyQ : run.active = true → run.command.qPressed.SetWith (PressedAt DriveReading.keyQ run.seen) 800
    run.clock
  keyE : run.active = true → run.command.ePressed.SetWith (PressedAt DriveReading.keyE run.seen) 800
    run.clock

variable {run : DriveRun}

theorem inv_start : start.Inv where
  single := CommandScheduler.single_construct
  latch := rfl
  seen _ h := nomatch h
  mode h := nomatch h
  keyQ h := nomatch h
  keyE h := nomatch h

theorem Inv.init (h : run.Inv) (now : UInt32) : (run.next (.init now)).Inv where
  single := h.single.single_schedule .followGimbalCommand
  latch := h.latch
  seen _ h := nomatch h
  mode _ := ⟨.followGimbalCommand, mode_schedule h.single .followGimbalCommand⟩
  keyQ _ := run.command.qPressed.setWith_restart_zero _ _
  keyE _ := run.command.ePressed.setWith_restart_zero _ _

theorem Inv.finish (h : run.Inv) : (run.next .finish).Inv := by
  have hnext : run.next .finish =
      ⟨run.command.finish, false, run.clock, run.seen, run.lastF⟩ := rfl
  rw [hnext]
  exact ⟨single_finish h.single, wasFPressed_finish.trans h.latch, h.seen, (nomatch ·),
    (nomatch ·), (nomatch ·)⟩

theorem Inv.execute (h : run.Inv) {r : DriveReading} (hclock : run.clock ≤ r.now) :
    (run.next (.execute r)).Inv := by
  obtain ⟨hlatch, hq, he⟩ := execute_kept run.command r
  refine ⟨single_execute h.single r, hlatch, fun past hpast => ?_, fun hactive => ?_,
    fun hactive => ?_, fun hactive => ?_⟩
  · cases hpast
    rfl
  · obtain ⟨command, hmode⟩ := h.mode hactive
    exact mode_execute h.single hmode r
  · show (run.command.execute r).qPressed.SetWith _ _ _
    rw [hq]
    exact setWith_press (h.keyQ hactive) hclock
  · show (run.command.execute r).ePressed.SetWith _ _ _
    rw [he]
    exact setWith_press (h.keyE hactive) hclock

/-- A timer that runs in an `execute` was set by a press less than 800 ms ago. -/
theorem recent_of_running {key : DriveReading → Bool} {t : Timeout} {r : DriveReading}
    (h : t.SetWith (PressedAt key run.seen) 800 run.clock) (hclock : run.clock ≤ r.now)
    (hrunning : (if key r then t.restart r.now 800 else t).isExpired r.now = false) :
    run.Recent key r := by
  obtain ⟨time, ⟨past, hpast, hkey, rfl⟩, hrecent⟩ :=
    setWith_press h hclock r.now (UInt32.le_refl _) hrunning
  exact ⟨past, hpast, hkey, hrecent⟩

/-- A release is seen by an `execute` that is not the first, if the last one saw F pressed. -/
theorem Inv.releases_iff (h : run.Inv) {r : DriveReading} :
    run.Releases r ↔ r.keyF = false ∧ run.seen ≠ [] ∧ run.lastF = true := by
  refine and_congr_right fun _ => ?_
  cases hseen : run.seen with
  | nil => simp
  | cons past seen =>
    have hpast : past.keyF = run.lastF := h.seen past (by rw [hseen]; rfl)
    simp [hpast]

/-- **A release**, of this activation or of the one before: from following the gimbal to a spin, and
back. -/
theorem Inv.mode_of_released (h : run.Inv) {r : DriveReading} (hclock : run.clock ≤ r.now)
    (hactive : run.active = true) (hpressed : run.lastF = true) (hreleased : r.keyF = false) :
    (run.command.Mode .followGimbalCommand →
        ∃ command, command ≠ .followGimbalCommand ∧ (run.command.execute r).Mode command ∧
          (command = .tokyoLeftCommand → run.Recent DriveReading.keyQ r) ∧
          (command = .tokyoRightCommand → run.Recent DriveReading.keyE r)) ∧
      ∀ command, command ≠ .followGimbalCommand → run.command.Mode command →
        (run.command.execute r).Mode .followGimbalCommand := by
  rw [execute_of_released (h.latch.trans hpressed) hreleased]
  constructor
  · intro hmode
    obtain ⟨command, hspin, hmode', hq, he⟩ :=
      @toggle_of_follow (run.command.press r) h.single hmode r.now
    exact ⟨command, hspin, hmode',
      fun hleft => recent_of_running (h.keyQ hactive) hclock (hq hleft),
      fun hright => recent_of_running (h.keyE hactive) hclock (he hright)⟩
  · intro command hspin hmode
    exact @toggle_of_spin (run.command.press r) command h.single hmode hspin r.now

/-- A release changes the mode. -/
theorem Inv.not_mode_of_released (h : run.Inv) {r : DriveReading} (hpressed : run.lastF = true)
    (hreleased : r.keyF = false) {command : DriveCommand} (hmode : run.command.Mode command) :
    ¬ (run.command.execute r).Mode command := by
  rw [execute_of_released (h.latch.trans hpressed) hreleased]
  exact @not_mode_toggle (run.command.press r) command h.single hmode r.now

/-- **One `execute`** toggles as it should, unless it is the first of an activation and F has been
released since the last one. -/
theorem Inv.toggles_iff_fresh (h : run.Inv) {e : DriveEvent} (hordered : run.Ordered e) :
    run.Toggles e ↔ run.Fresh e := by
  cases e with
  | init now => exact iff_of_true (mode_schedule h.single .followGimbalCommand) trivial
  | finish => exact Iff.rfl
  | execute r =>
    refine forall_congr' fun hactive => ?_
    rw [h.releases_iff]
    by_cases hkept : run.command.wasFPressed = false ∨ r.keyF = true
    · have hexecute := execute_of_not_released hkept
      rw [h.latch] at hkept
      refine iff_of_true ⟨fun hreleases => ?_, fun _ command hmode => ?_⟩ fun _ hlast => ?_
      · rw [hreleases.1, hreleases.2.2] at hkept
        simp at hkept
      · rw [hexecute]
        exact hmode
      · rw [hlast] at hkept
        simpa using hkept
    · rw [not_or, Bool.not_eq_false, Bool.not_eq_true, h.latch] at hkept
      obtain ⟨hpressed, hreleased⟩ := hkept
      by_cases hseen : run.seen = []
      · -- the press was in another activation
        refine iff_of_false (fun htoggles => ?_) (fun hfresh => ?_)
        · obtain ⟨command, hmode⟩ := h.mode hactive
          exact h.not_mode_of_released hpressed hreleased hmode
            (htoggles.2 (fun hreleases => hreleases.2.1 hseen) command hmode)
        · exact Bool.noConfusion (hreleased.symm.trans (hfresh hseen hpressed))
      · exact iff_of_true ⟨fun _ => h.mode_of_released hordered hactive hpressed hreleased,
          fun hnot => absurd ⟨hreleased, hseen, hpressed⟩ hnot⟩ fun hnil => absurd hnil hseen

theorem Inv.next (h : run.Inv) {e : DriveEvent} (hordered : run.Ordered e) : (run.next e).Inv := by
  cases e with
  | init now => exact h.init now
  | execute r => exact h.execute hordered
  | finish => exact h.finish

/-- **When the mode toggles as it should**: at no time two commands are scheduled, and a run toggles
the mode by the presses and releases of each activation exactly if no activation finds F released
that the last `execute` before saw pressed. -/
theorem toggles_iff (events : List DriveEvent)
    (hordered : Each DriveRun.next Ordered start events) :
    (∀ before, before <+: events → (after DriveRun.next start before).AtMostOne) ∧
      (Each DriveRun.next Toggles start events ↔ Each DriveRun.next Fresh start events) := by
  constructor
  · rintro before ⟨rest, rfl⟩
    have hinv : (after DriveRun.next start before).Inv :=
      (each_append.1 hordered).1.inv_after (fun _ _ h hlegal => h.next hlegal) inv_start
    exact hinv.single.eq_of_mem
  · exact each_iff_of_inv (fun _ _ h hlegal => h.toggles_iff_fresh hlegal)
      (fun _ _ h hlegal _ => h.next hlegal) inv_start hordered

/-- F is pressed and released in one activation, shortly after E. -/
def spinEvents : List DriveEvent :=
  [.init 0, .execute ⟨10, false, false, true⟩, .execute ⟨500, true, false, false⟩,
    .execute ⟨800, false, false, false⟩]

theorem toggles_iff_spin :
    ((∀ before, before <+: spinEvents → (after DriveRun.next start before).AtMostOne) ∧
      (Each DriveRun.next Toggles start spinEvents ↔ Each DriveRun.next Fresh start spinEvents)) ∧
    (after DriveRun.next start spinEvents).command.Mode .tokyoRightCommand :=
  ⟨toggles_iff spinEvents (by decide +kernel), by decide +kernel⟩

/-- F is pressed when an activation ends, and released when the next one starts. -/
def heldEvents : List DriveEvent := [.init 0, .execute ⟨10, true, false, false⟩, .finish, .init 20]

/-- The robot starts to spin. -/
theorem not_toggles_held :
    ¬ Each DriveRun.next Toggles start (heldEvents ++ [.execute ⟨30, false, false, false⟩]) ∧
      (after DriveRun.next start (heldEvents ++ [.execute ⟨30, false, false, false⟩])).command.Mode
        .tokyoCommand := by
  refine ⟨fun h => ?_, by decide +kernel⟩
  have hordered : Each DriveRun.next Ordered start heldEvents := by decide +kernel
  have hinv : (after DriveRun.next start heldEvents).Inv :=
    hordered.inv_after (fun _ _ h hlegal => h.next hlegal) inv_start
  have hfresh := (hinv.toggles_iff_fresh (e := .execute ⟨30, false, false, false⟩) (by decide)).1
    (each_append.1 h).2.1
  exact absurd (hfresh rfl rfl rfl) (by decide)

end DriveRun

end Aimbots.Chassis
