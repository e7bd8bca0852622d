import Aimbots.Library.Bitmap
import Aimbots.Library.Run

/-!
# `tap/control/command_scheduler.cpp`: the scheduler

`CommandScheduler` as it is: bitmaps of the identifiers of commands and subsystems, the default
commands, what it does while the robot is disconnected, and the hardware tests.  A state also keeps
what the scheduler has called, in order, and how many questions it has asked the robot, so that a
robot is any function from the number of a question to its answer.
-/

namespace Aimbots.Tap

open Bitmap (forEach oneHot)

/-- `subsystem_scheduler_bitmap_t` and `command_scheduler_bitmap_t`. -/
abbrev SchedulerBitmap := BitVec 64

/-- The commands and the subsystems that have been constructed, by identifier. -/
structure SchedulerTable (nc ns : ℕ) where
  commands_le : nc ≤ 64
  subsystems_le : ns ≤ 64
  getRequirementsBitwise : Fin nc → SchedulerBitmap
  getDefaultCommand : Fin ns → Option (Fin nc)

theorem SchedulerTable.command_lt {nc ns : ℕ} (table : SchedulerTable nc ns) (command : Fin nc) :
    command.val < 64 := Nat.lt_of_lt_of_le command.isLt table.commands_le

theorem SchedulerTable.subsystem_lt {nc ns : ℕ} (table : SchedulerTable nc ns) (sub : Fin ns) :
    sub.val < 64 := Nat.lt_of_lt_of_le sub.isLt table.subsystems_le

/-- What the scheduler asks. -/
inductive Question (nc ns : ℕ) where
  | safeDisconnected
  | isReady (command : Fin nc)
  | isFinished (command : Fin nc)
  | isHardwareTestComplete (subsystem : Fin ns)
  /-- the scheduler took longer than `MAX_ALLOWABLE_SCHEDULER_RUNTIME` -/
  | tookLonger
deriving DecidableEq, Repr

/-- What the scheduler calls. -/
inductive Call (nc ns : ℕ) where
  | initializeCommand (command : Fin nc)
  | execute (command : Fin nc)
  | endCommand (command : Fin nc) (interrupted : Bool)
  | refresh (subsystem : Fin ns)
  | refreshSafeDisconnect (subsystem : Fin ns)
  | runHardwareTests (subsystem : Fin ns)
  | setHardwareTestsIncomplete (subsystem : Fin ns)
  | setHardwareTestsComplete (subsystem : Fin ns)
  | RAISE_ERROR (text : String)
deriving DecidableEq, Repr

/-- The data members of `CommandScheduler`, what it has called, and the number of its questions. -/
structure BitmapScheduler (nc ns : ℕ) where
  registeredSubsystemBitmap : SchedulerBitmap
  subsystemsAssociatedWithCommandBitmap : SchedulerBitmap
  addedCommandBitmap : SchedulerBitmap
  isMasterScheduler : Bool
  runningHardwareTests : Bool
  calls : List (Call nc ns)
  asked : ℕ
deriving DecidableEq, Repr

namespace BitmapScheduler

variable {nc ns : ℕ}

/-- The constructor. -/
def construct (isMasterScheduler : Bool) : BitmapScheduler nc ns :=
  ⟨0, 0, 0, isMasterScheduler, false, [], 0⟩

/-- The scheduler makes a call. -/
def call (s : BitmapScheduler nc ns) (k : Call nc ns) : BitmapScheduler nc ns :=
  { s with calls := s.calls ++ [k] }

/-- The scheduler has been answered. -/
def next (s : BitmapScheduler nc ns) : BitmapScheduler nc ns := { s with asked := s.asked + 1 }

section Operations

variable (table : SchedulerTable nc ns) (robot : ℕ → Question nc ns → Bool)
  (s : BitmapScheduler nc ns)

/-- The answer to the question that comes next. -/
def answer (question : Question nc ns) : Bool := robot s.asked question

/-- The loop from `cmdMapBegin()` to `cmdMapEnd()`. -/
def forEachCommand (body : BitmapScheduler nc ns → Fin nc → BitmapScheduler nc ns) :
    BitmapScheduler nc ns :=
  forEach addedCommandBitmap body s

/-- The loop from `subMapBegin()` to `subMapEnd()`. -/
def forEachSubsystem (body : BitmapScheduler nc ns → Fin ns → BitmapScheduler nc ns) :
    BitmapScheduler nc ns :=
  forEach registeredSubsystemBitmap body s

/-- `isCommandScheduled`. -/
def isCommandScheduled (command : Fin nc) : Bool :=
  decide (s.addedCommandBitmap &&& oneHot 64 command ≠ 0)

/-- `isSubsystemRegistered`. -/
def isSubsystemRegistered (subsystem : Fin ns) : Bool :=
  decide (oneHot 64 subsystem &&& s.registeredSubsystemBitmap ≠ 0)

/-- `removeCommand`; `none` is the null pointer. -/
def removeCommand (interrupted : Bool) : Option (Fin nc) → BitmapScheduler nc ns
  | none => s.call (.RAISE_ERROR "trying to remove nullptr command")
  | some command =>
    if !s.isCommandScheduled command then s
    else
      let s := s.call (.endCommand command interrupted)
      { s with
        subsystemsAssociatedWithCommandBitmap :=
          s.subsystemsAssociatedWithCommandBitmap &&& ~~~table.getRequirementsBitwise command
        addedCommandBitmap := s.addedCommandBitmap &&& ~~~oneHot 64 command }

/-- The commands that require a subsystem of these end. -/
def interrupt (requirementsBitwise : SchedulerBitmap) : BitmapScheduler nc ns :=
  s.forEachCommand fun s it =>
    if table.getRequirementsBitwise it &&& requirementsBitwise ≠ 0 then
      s.removeCommand table true (some it)
    else s

/-- `addCommand`; `none` is the null pointer. -/
def addCommand (commandToAdd : Option (Fin nc)) : BitmapScheduler nc ns :=
  if s.answer robot .safeDisconnected then s.next
  else
    let s := s.next
    if s.runningHardwareTests then
      s.call (.RAISE_ERROR "attempting to add command while running tests")
    else
      match commandToAdd with
      | none => s.call (.RAISE_ERROR "attempting to add nullptr command")
      | some command =>
        if !s.answer robot (.isReady command) then s.next
        else
          let s := s.next
          let requirementsBitwise := table.getRequirementsBitwise command
          if requirementsBitwise &&& s.registeredSubsystemBitmap ≠ requirementsBitwise ∨
              requirementsBitwise = 0 then
            s.call (.RAISE_ERROR "Attempting to add a command without subsystem in the scheduler")
          else
            let s := s.interrupt table requirementsBitwise
            let s := { s with
              subsystemsAssociatedWithCommandBitmap :=
                s.subsystemsAssociatedWithCommandBitmap ||| requirementsBitwise }
            let s := s.call (.initializeCommand command)
            { s with addedCommandBitmap := s.addedCommandBitmap ||| oneHot 64 command }

/-- What `run()` does with a subsystem while the hardware tests run. -/
def testSubsystem (sub : Fin ns) : BitmapScheduler nc ns :=
  let complete := s.answer robot (.isHardwareTestComplete sub)
  let s := s.next
  (if complete then s else s.call (.runHardwareTests sub)).call (.refresh sub)

/-- What `run()` does with a command. -/
def executeCommand (command : Fin nc) : BitmapScheduler nc ns :=
  let s := s.call (.execute command)
  if s.answer robot (.isFinished command) then s.next.removeCommand table false (some command)
  else s.next

/-- What `run()` of the master scheduler does with a subsystem. -/
def refreshSubsystem (sub : Fin ns) : BitmapScheduler nc ns :=
  let s := s.next.call
    (if s.answer robot .safeDisconnected then .refreshSafeDisconnect sub else .refresh sub)
  let disconnected := s.answer robot .safeDisconnected
  let s := s.next
  if !disconnected && decide (s.subsystemsAssociatedWithCommandBitmap &&& oneHot 64 sub = 0) &&
      (table.getDefaultCommand sub).isSome then
    s.addCommand table robot (table.getDefaultCommand sub)
  else s

/-- What `run()` does with the commands. -/
def runCommands : BitmapScheduler nc ns :=
  if s.answer robot .safeDisconnected then
    s.next.forEachCommand fun s it => s.removeCommand table true (some it)
  else s.next.forEachCommand (executeCommand table robot)

/-- What `run()` does with the subsystems. -/
def runSubsystems : BitmapScheduler nc ns :=
  if s.isMasterScheduler then s.forEachSubsystem (refreshSubsystem table robot) else s

/-- The check of the time that `run()` took. -/
def checkRuntime : BitmapScheduler nc ns :=
  if s.answer robot .tookLonger then
    s.next.call (.RAISE_ERROR "scheduler took longer than MAX_ALLOWABLE_SCHEDULER_RUNTIME")
  else s.next

/-- `run`. -/
def run : BitmapScheduler nc ns :=
  if s.runningHardwareTests then s.forEachSubsystem (testSubsystem robot)
  else (((s.runCommands table robot).runSubsystems table robot).checkRuntime robot)

/-- `registerSubsystem`; `none` is the null pointer. -/
def registerSubsystem : Option (Fin ns) → BitmapScheduler nc ns
  | none => s.call (.RAISE_ERROR "trying to register nullptr subsystem")
  | some subsystem =>
    if s.isSubsystemRegistered subsystem then s.call (.RAISE_ERROR "subsystem is already added")
    else
      { s with
        registeredSubsystemBitmap := s.registeredSubsystemBitmap ||| oneHot 64 subsystem }

/-- `startHardwareTests`. -/
def startHardwareTests : BitmapScheduler nc ns :=
  let s := { s with runningHardwareTests := true }
  let s := s.forEachCommand fun s it => s.call (.endCommand it true)
  let s := { s with addedCommandBitmap := 0, subsystemsAssociatedWithCommandBitmap := 0 }
  s.forEachSubsystem fun s it => s.call (.setHardwareTestsIncomplete it)

/-- `stopHardwareTests`. -/
def stopHardwareTests : BitmapScheduler nc ns :=
  let s := s.forEachSubsystem fun s it => s.call (.setHardwareTestsComplete it)
  { s with runningHardwareTests := false }

end Operations

/-- What the robot does with the scheduler. -/
inductive Operation (nc ns : ℕ) where
  | run
  | addCommand (command : Option (Fin nc))
  | removeCommand (command : Option (Fin nc)) (interrupted : Bool)
  | registerSubsystem (subsystem : Option (Fin ns))
  | startHardwareTests
  | stopHardwareTests
deriving DecidableEq, Repr

/-- One operation. -/
def step (table : SchedulerTable nc ns) (robot : ℕ → Question nc ns → Bool)
    (s : BitmapScheduler nc ns) : Operation nc ns → BitmapScheduler nc ns
  | .run => s.run table robot
  | .addCommand command => s.addCommand table robot command
  | .removeCommand command interrupted => s.removeCommand table interrupted command
  | .registerSubsystem subsystem => s.registerSubsystem subsystem
  | .startHardwareTests => s.startHardwareTests
  | .stopHardwareTests => s.stopHardwareTests

end BitmapScheduler

end Aimbots.Tap
