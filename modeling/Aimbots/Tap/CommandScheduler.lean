import Mathlib.Data.Finset.Basic

/-!
# `tap/control/command_scheduler.cpp`

The scheduler of a comprised command: which of its commands are scheduled.  It is never safe
disconnected and runs no hardware tests.  Where none of its commands finishes by itself, `run()`
leaves the commands that are scheduled as they are; otherwise it removes those that are finished.
-/

namespace Aimbots.Tap

/-- What the scheduler asks a command for. -/
structure CommandTable (Cmd Sub : Type*) where
  getRequirementsBitwise : Cmd → Finset Sub
  isReady : Cmd → Bool

/-- Commands that are always ready, and all require the one subsystem. -/
def CommandTable.single (Cmd : Type*) : CommandTable Cmd Unit := ⟨fun _ => {()}, fun _ => true⟩

/-- The data members of `CommandScheduler`, its bitmaps as sets. -/
structure CommandScheduler (Cmd Sub : Type*) where
  registeredSubsystemBitmap : Finset Sub
  addedCommandBitmap : Finset Cmd

namespace CommandScheduler

variable {Cmd Sub : Type*} [DecidableEq Cmd]

section Operations

variable (table : CommandTable Cmd Sub) (s : CommandScheduler Cmd Sub) (command : Cmd)

/-- `isCommandScheduled`. -/
def isCommandScheduled : Bool := decide (command ∈ s.addedCommandBitmap)

/-- `removeCommand`. -/
def removeCommand : CommandScheduler Cmd Sub :=
  { s with addedCommandBitmap := s.addedCommandBitmap.erase command }

omit [DecidableEq Cmd] in
/-- The commands that `run()` leaves: those that are finished are removed. -/
def removeFinished (isFinished : Cmd → Bool) : CommandScheduler Cmd Sub :=
  { s with addedCommandBitmap := s.addedCommandBitmap.filter fun command => !isFinished command }

/-- `descheduleIfScheduled`. -/
def descheduleIfScheduled : CommandScheduler Cmd Sub :=
  if s.isCommandScheduled command then s.removeCommand command else s

variable [DecidableEq Sub]

/-- `addCommand`: a command that is not ready, or whose subsystems are not registered, is not added,
and one that is ends all commands that share a subsystem with it. -/
def addCommand : CommandScheduler Cmd Sub :=
  if table.isReady command = false then s
  else if ¬ table.getRequirementsBitwise command ⊆ s.registeredSubsystemBitmap ∨
      table.getRequirementsBitwise command = ∅ then s
  else
    { s with
      addedCommandBitmap :=
        insert command (s.addedCommandBitmap.filter fun other =>
          table.getRequirementsBitwise other ∩ table.getRequirementsBitwise command = ∅) }

/-- `scheduleIfNotScheduled`. -/
def scheduleIfNotScheduled : CommandScheduler Cmd Sub :=
  if s.isCommandScheduled command then s else s.addCommand table command

end Operations

variable {table : CommandTable Cmd Sub} {s : CommandScheduler Cmd Sub} {command other : Cmd}

theorem isCommandScheduled_iff :
    s.isCommandScheduled command = true ↔ command ∈ s.addedCommandBitmap := decide_eq_true_iff

@[simp] theorem registered_descheduleIfScheduled :
    (s.descheduleIfScheduled command).registeredSubsystemBitmap =
      s.registeredSubsystemBitmap := by
  unfold descheduleIfScheduled
  split_ifs <;> rfl

theorem mem_descheduleIfScheduled :
    other ∈ (s.descheduleIfScheduled command).addedCommandBitmap ↔
      other ≠ command ∧ other ∈ s.addedCommandBitmap := by
  unfold descheduleIfScheduled isCommandScheduled removeCommand
  by_cases hmem : command ∈ s.addedCommandBitmap
  · rw [if_pos (decide_eq_true hmem)]
    exact Finset.mem_erase
  · rw [if_neg (by simp [hmem])]
    refine ⟨fun hother => ⟨?_, hother⟩, fun hother => hother.2⟩
    rintro rfl
    exact hmem hother

variable [DecidableEq Sub]

/-- A command can be added. -/
structure Addable (table : CommandTable Cmd Sub) (s : CommandScheduler Cmd Sub) (command : Cmd) :
    Prop where
  ready : table.isReady command = true
  registered : table.getRequirementsBitwise command ⊆ s.registeredSubsystemBitmap
  nonempty : table.getRequirementsBitwise command ≠ ∅

/-- **Exclusive scheduling**: no two commands that are scheduled share a subsystem. -/
def Exclusive (table : CommandTable Cmd Sub) (s : CommandScheduler Cmd Sub) : Prop :=
  ∀ command ∈ s.addedCommandBitmap, ∀ other ∈ s.addedCommandBitmap, command ≠ other →
    table.getRequirementsBitwise command ∩ table.getRequirementsBitwise other = ∅

@[simp] theorem registered_addCommand :
    (s.addCommand table command).registeredSubsystemBitmap = s.registeredSubsystemBitmap := by
  unfold addCommand
  split_ifs <;> rfl

@[simp] theorem registered_scheduleIfNotScheduled :
    (s.scheduleIfNotScheduled table command).registeredSubsystemBitmap =
      s.registeredSubsystemBitmap := by
  unfold scheduleIfNotScheduled
  split_ifs
  · rfl
  · exact registered_addCommand

theorem mem_addCommand (h : Addable table s command) :
    other ∈ (s.addCommand table command).addedCommandBitmap ↔
      other = command ∨ other ∈ s.addedCommandBitmap ∧
        table.getRequirementsBitwise other ∩ table.getRequirementsBitwise command = ∅ := by
  rw [addCommand, if_neg (by simp [h.ready]), if_neg (by simp [h.registered, h.nonempty])]
  simp

/-- **Scheduling a command** leaves the others that share no subsystem with it. -/
theorem mem_scheduleIfNotScheduled (hs : Exclusive table s) (h : Addable table s command) :
    other ∈ (s.scheduleIfNotScheduled table command).addedCommandBitmap ↔
      other = command ∨ other ∈ s.addedCommandBitmap ∧
        table.getRequirementsBitwise other ∩ table.getRequirementsBitwise command = ∅ := by
  unfold scheduleIfNotScheduled isCommandScheduled
  by_cases hmem : command ∈ s.addedCommandBitmap
  · rw [if_pos (decide_eq_true hmem)]
    constructor
    · intro hother
      by_cases heq : other = command
      · exact Or.inl heq
      · exact Or.inr ⟨hother, hs other hother command hmem heq⟩
    · rintro (rfl | hother)
      · exact hmem
      · exact hother.1
  · rw [if_neg (by simp [hmem])]
    exact mem_addCommand h

theorem Exclusive.addCommand (hs : Exclusive table s) :
    Exclusive table (s.addCommand table command) := by
  by_cases h : Addable table s command
  · intro first hfirst second hsecond hne
    rcases (mem_addCommand h).1 hfirst with rfl | ⟨hfirst, hdisjoint⟩
    · rcases (mem_addCommand h).1 hsecond with rfl | ⟨-, hdisjoint⟩
      · exact absurd rfl hne
      · rw [Finset.inter_comm]
        exact hdisjoint
    · rcases (mem_addCommand h).1 hsecond with rfl | ⟨hsecond, -⟩
      · exact hdisjoint
      · exact hs first hfirst second hsecond hne
  · have hsame : s.addCommand table command = s := by
      unfold CommandScheduler.addCommand
      split_ifs with hready hregistered
      · rfl
      · rfl
      · rw [not_or, not_not] at hregistered
        exact absurd ⟨Bool.eq_true_of_not_eq_false hready, hregistered.1, hregistered.2⟩ h
    rw [hsame]
    exact hs

theorem Exclusive.scheduleIfNotScheduled (hs : Exclusive table s) :
    Exclusive table (s.scheduleIfNotScheduled table command) := by
  unfold CommandScheduler.scheduleIfNotScheduled
  split_ifs
  · exact hs
  · exact hs.addCommand

theorem Exclusive.descheduleIfScheduled (hs : Exclusive table s) :
    Exclusive table (s.descheduleIfScheduled command) :=
  fun first hfirst second hsecond =>
    hs first (mem_descheduleIfScheduled.1 hfirst).2 second (mem_descheduleIfScheduled.1 hsecond).2

/-! ### The commands of one subsystem -/

section Single

/-- A scheduler with the one subsystem. -/
def construct (Cmd : Type*) : CommandScheduler Cmd Unit := ⟨{()}, ∅⟩

variable {Cmd : Type*} [DecidableEq Cmd] {s : CommandScheduler Cmd Unit} {command : Cmd}

/-- A scheduler with the one subsystem schedules one command at most. -/
structure Single (s : CommandScheduler Cmd Unit) : Prop where
  registered : s.registeredSubsystemBitmap = {()}
  eq_of_mem : ∀ command ∈ s.addedCommandBitmap, ∀ other ∈ s.addedCommandBitmap, command = other

omit [DecidableEq Cmd] in
theorem single_construct : (construct Cmd).Single :=
  ⟨rfl, fun _ h => absurd h (Finset.notMem_empty _)⟩

omit [DecidableEq Cmd] in
theorem Single.addable (h : s.Single) (command : Cmd) : Addable (.single Cmd) s command :=
  ⟨rfl, by simp [CommandTable.single, h.registered], by simp [CommandTable.single]⟩

omit [DecidableEq Cmd] in
theorem Single.exclusive (h : s.Single) : Exclusive (.single Cmd) s :=
  fun command hcommand other hother hne => absurd (h.eq_of_mem command hcommand other hother) hne

omit [DecidableEq Cmd] in
theorem single_of_eq {command : Cmd} (hregistered : s.registeredSubsystemBitmap = {()})
    (h : s.addedCommandBitmap = {command}) : s.Single := by
  refine ⟨hregistered, fun first hfirst second hsecond => ?_⟩
  rw [h, Finset.mem_singleton] at hfirst hsecond
  rw [hfirst, hsecond]

theorem Single.addCommand (h : s.Single) (command : Cmd) :
    (s.addCommand (.single Cmd) command).addedCommandBitmap = {command} := by
  ext other
  rw [mem_addCommand (h.addable command), Finset.mem_singleton]
  simp [CommandTable.single]

/-- **Scheduling a command of the one subsystem** ends the others. -/
theorem Single.scheduleIfNotScheduled (h : s.Single) (command : Cmd) :
    (s.scheduleIfNotScheduled (.single Cmd) command).addedCommandBitmap = {command} := by
  ext other
  rw [mem_scheduleIfNotScheduled h.exclusive (h.addable command), Finset.mem_singleton]
  simp [CommandTable.single]

theorem Single.single_add (h : s.Single) (command : Cmd) :
    (s.addCommand (.single Cmd) command).Single :=
  single_of_eq (registered_addCommand.trans h.registered) (h.addCommand command)

theorem Single.single_schedule (h : s.Single) (command : Cmd) :
    (s.scheduleIfNotScheduled (.single Cmd) command).Single :=
  single_of_eq (registered_scheduleIfNotScheduled.trans h.registered)
    (h.scheduleIfNotScheduled command)

theorem Single.single_deschedule (h : s.Single) (command : Cmd) :
    (s.descheduleIfScheduled command).Single :=
  ⟨registered_descheduleIfScheduled.trans h.registered, fun first hfirst second hsecond =>
    h.eq_of_mem first (mem_descheduleIfScheduled.1 hfirst).2 second
      (mem_descheduleIfScheduled.1 hsecond).2⟩

omit [DecidableEq Cmd] in
theorem Single.single_removeFinished (h : s.Single) (isFinished : Cmd → Bool) :
    (s.removeFinished isFinished).Single :=
  ⟨h.registered, fun first hfirst second hsecond =>
    h.eq_of_mem first (Finset.mem_filter.1 hfirst).1 second (Finset.mem_filter.1 hsecond).1⟩

end Single

end CommandScheduler

end Aimbots.Tap
