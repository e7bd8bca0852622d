import Aimbots.Tap.RemoteMapState
import Aimbots.Tap.SchedulerRun

/-!
# `tap/control/command_mapper.cpp`: which commands the remote asks for

A `CommandMapping` adds its commands to the scheduler and removes them as the remote changes: a hold
mapping, a hold repeat mapping, a press mapping or a toggle mapping.  The `CommandMapper` shows what
the remote shows to all its mappings, in the order in which they were added.
-/

namespace Aimbots.Tap

open Run (after)

/-- The classes of mappings, with what their constructors take. -/
inductive MappingClass where
  | HoldCommandMapping
  | HoldRepeatCommandMapping (endCommandsWhenNotHeld : Bool) (maxTimesToSchedule : ℤ)
  | PressCommandMapping
  | ToggleCommandMapping
deriving DecidableEq, Repr

/-- The data members of a mapping of each class. -/
inductive MappingState where
  | hold (commandScheduled : Bool)
  | holdRepeat (held endCommandsWhenNotHeld : Bool) (maxTimesToSchedule : ℤ)
      (rescheduleCounts : List ℤ)
  | press (pressed : Bool)
  | toggle (pressed toggled : Bool)
deriving DecidableEq, Repr

/-- `CommandMapping`; a command that is `none` is a null pointer. -/
structure CommandMapping (nc : ℕ) where
  mapState : RemoteMapState
  mappedCommands : List (Option (Fin nc))
  state : MappingState
deriving DecidableEq, Repr

/-- `isCommandScheduled` of a pointer. -/
def BitmapScheduler.isPointerScheduled {nc ns : ℕ} (s : BitmapScheduler nc ns) :
    Option (Fin nc) → Bool
  | none => false
  | some command => s.isCommandScheduled command

namespace CommandMapping

variable {nc ns : ℕ}

/-- What `std::remove_if` leaves of the pointers: the size is what it was, so what it moved to the
front is still at the end. -/
def removeNull (cmds : List (Option (Fin nc))) : List (Option (Fin nc)) :=
  cmds.filter Option.isSome ++ cmds.drop (cmds.filter Option.isSome).length

/-- The constructors. -/
def construct (cmds : List (Option (Fin nc))) (rms : RemoteMapState) :
    MappingClass → CommandMapping nc
  | .HoldCommandMapping => ⟨rms, removeNull cmds, .hold false⟩
  | .HoldRepeatCommandMapping endCommandsWhenNotHeld maxTimesToSchedule =>
    ⟨rms, removeNull cmds, .holdRepeat false endCommandsWhenNotHeld maxTimesToSchedule
      (List.replicate (removeNull cmds).length 0)⟩
  | .PressCommandMapping => ⟨rms, removeNull cmds, .press false⟩
  | .ToggleCommandMapping => ⟨rms, removeNull cmds, .toggle false false⟩

section Execution

variable (table : SchedulerTable nc ns) (robot : ℕ → Question nc ns → Bool)
  (m : CommandMapping nc) (s : BitmapScheduler nc ns) (currState : RemoteMapState)

/-- `addCommands`. -/
def addCommands : BitmapScheduler nc ns :=
  m.mappedCommands.foldl (fun s cmd => s.addCommand table robot cmd) s

/-- `removeCommands`. -/
def removeCommands : BitmapScheduler nc ns :=
  m.mappedCommands.foldl (fun s cmd => s.removeCommand table false cmd) s

/-- `noCommandsScheduled`. -/
def noCommandsScheduled : Bool := m.mappedCommands.all fun cmd => !s.isPointerScheduled cmd

/-- `HoldCommandMapping::executeCommandMapping`. -/
def executeHold (commandScheduled : Bool) : MappingState × BitmapScheduler nc ns :=
  if m.mapState.active currState then
    if !commandScheduled then (.hold true, m.addCommands table robot s)
    else (.hold commandScheduled, s)
  else if commandScheduled then (.hold false, m.removeCommands table s)
  else (.hold commandScheduled, s)

/-- `okToScheduleCommand`. -/
def okToScheduleCommand (maxTimesToSchedule : ℤ) (rescheduleCounts : List ℤ) (cmdIndex : ℕ) :
    Bool :=
  decide (maxTimesToSchedule = -1) || decide (rescheduleCounts.getD cmdIndex 0 < maxTimesToSchedule)

/-- `incrementRescheduleCount`. -/
def incrementRescheduleCount (maxTimesToSchedule : ℤ) (rescheduleCounts : List ℤ) (cmdIndex : ℕ) :
    List ℤ :=
  if maxTimesToSchedule ≠ -1 then rescheduleCounts.modify cmdIndex (· + 1) else rescheduleCounts

/-- The loop of a hold repeat mapping, from the command with index `i` on. -/
def scheduleHeld (maxTimesToSchedule : ℤ) : List (Option (Fin nc)) → ℕ → List ℤ →
    BitmapScheduler nc ns → List ℤ × BitmapScheduler nc ns
  | [], _, rescheduleCounts, s => (rescheduleCounts, s)
  | cmd :: cmds, i, rescheduleCounts, s =>
    if !s.isPointerScheduled cmd && okToScheduleCommand maxTimesToSchedule rescheduleCounts i then
      scheduleHeld maxTimesToSchedule cmds (i + 1)
        (incrementRescheduleCount maxTimesToSchedule rescheduleCounts i)
        (s.addCommand table robot cmd)
    else scheduleHeld maxTimesToSchedule cmds (i + 1) rescheduleCounts s

/-- `HoldRepeatCommandMapping::executeCommandMapping`. -/
def executeHoldRepeat (held endCommandsWhenNotHeld : Bool) (maxTimesToSchedule : ℤ)
    (rescheduleCounts : List ℤ) : MappingState × BitmapScheduler nc ns :=
  if m.mapState.active currState then
    let looped := scheduleHeld table robot maxTimesToSchedule m.mappedCommands 0 rescheduleCounts s
    (.holdRepeat true endCommandsWhenNotHeld maxTimesToSchedule looped.1, looped.2)
  else if held then
    (.holdRepeat false endCommandsWhenNotHeld maxTimesToSchedule (rescheduleCounts.map fun _ => 0),
      if endCommandsWhenNotHeld then m.removeCommands table s else s)
  else (.holdRepeat held endCommandsWhenNotHeld maxTimesToSchedule rescheduleCounts, s)

/-- `PressCommandMapping::executeCommandMapping`. -/
def executePress (pressed : Bool) : MappingState × BitmapScheduler nc ns :=
  if m.mapState.active currState then
    if !pressed then (.press true, m.addCommands table robot s) else (.press pressed, s)
  else (.press false, s)

/-- `ToggleCommandMapping::executeCommandMapping`. -/
def executeToggle (pressed toggled : Bool) : MappingState × BitmapScheduler nc ns :=
  let finished := m.noCommandsScheduled s && toggled
  let toggled := if finished then false else toggled
  let pressed := if finished then false else pressed
  if m.mapState.getNegKeysUsed && RemoteMapState.negKeysSubset m.mapState currState then
    (.toggle false false, if toggled then m.removeCommands table s else s)
  else if m.mapState.stateSubsetOf currState then
    if !pressed then
      (.toggle true (!toggled),
        if !toggled then m.addCommands table robot s else m.removeCommands table s)
    else (.toggle pressed toggled, s)
  else (.toggle false toggled, s)

/-- `executeCommandMapping`. -/
def executeCommandMapping : CommandMapping nc × BitmapScheduler nc ns :=
  let executed := match m.state with
    | .hold commandScheduled => m.executeHold table robot s currState commandScheduled
    | .holdRepeat held endCommandsWhenNotHeld maxTimesToSchedule rescheduleCounts =>
      m.executeHoldRepeat table robot s currState held endCommandsWhenNotHeld maxTimesToSchedule
        rescheduleCounts
    | .press pressed => m.executePress table robot s currState pressed
    | .toggle pressed toggled => m.executeToggle table robot s currState pressed toggled
  ({ m with state := executed.1 }, executed.2)

end Execution

end CommandMapping

/-- What the remote shows, as `handleKeyStateChange` takes it. -/
structure KeyState where
  key : BitVec 16
  leftSwitch : SwitchState
  rightSwitch : SwitchState
  mouseL : Bool
  mouseR : Bool
deriving DecidableEq, Repr

/-- The map state that `handleKeyStateChange` makes. -/
def KeyState.mapstate (k : KeyState) : RemoteMapState :=
  let s :=
    ((RemoteMapState.empty.initLSwitch k.leftSwitch).initRSwitch k.rightSwitch).initKeys k.key
  let s := if k.mouseL then s.initLMouseButton else s
  if k.mouseR then s.initRMouseButton else s

/-- The `CommandMapper`, the scheduler that its mappings use, and the errors it has raised. -/
structure CommandMapper (nc ns : ℕ) where
  commandsToRun : List (CommandMapping nc)
  commandScheduler : BitmapScheduler nc ns
  errors : List String
deriving DecidableEq, Repr

/-- What happens to the mapper and to the scheduler. -/
inductive MapperEvent (nc ns : ℕ) where
  | addMap (cmds : List (Option (Fin nc))) (rms : RemoteMapState) (mappingClass : MappingClass)
  | handleKeyStateChange (keys : KeyState)
  | scheduler (operation : BitmapScheduler.Operation nc ns)
deriving DecidableEq, Repr

namespace CommandMapper

variable {nc ns : ℕ}

section Operations

variable (table : SchedulerTable nc ns) (robot : ℕ → Question nc ns → Bool)
  (mapper : CommandMapper nc ns)

/-- A new mapper, and a new scheduler. -/
def start (isMasterScheduler : Bool) : CommandMapper nc ns :=
  ⟨[], .construct isMasterScheduler, []⟩

/-- `addMap`. -/
def addMap (mapping : CommandMapping nc) : CommandMapper nc ns :=
  if mapper.commandsToRun.any fun cmap => decide (cmap.mapState = mapping.mapState) then
    { mapper with errors := mapper.errors ++ ["failed to insert io mapping"] }
  else { mapper with commandsToRun := mapper.commandsToRun ++ [mapping] }

/-- The loop of `handleKeyStateChange`. -/
def executeAll (currState : RemoteMapState) : List (CommandMapping nc) → BitmapScheduler nc ns →
    List (CommandMapping nc) × BitmapScheduler nc ns
  | [], s => ([], s)
  | cmdMap :: rest, s =>
    let executed := cmdMap.executeCommandMapping table robot s currState
    let others := executeAll currState rest executed.2
    (executed.1 :: others.1, others.2)

/-- `handleKeyStateChange`. -/
def handleKeyStateChange (keys : KeyState) : CommandMapper nc ns :=
  let executed := executeAll table robot keys.mapstate mapper.commandsToRun mapper.commandScheduler
  { mapper with commandsToRun := executed.1, commandScheduler := executed.2 }

/-- One event. -/
def step : MapperEvent nc ns → CommandMapper nc ns
  | .addMap cmds rms mappingClass => mapper.addMap (.construct cmds rms mappingClass)
  | .handleKeyStateChange keys => mapper.handleKeyStateChange table robot keys
  | .scheduler operation =>
    { mapper with commandScheduler := mapper.commandScheduler.step table robot operation }

end Operations

end CommandMapper

end Aimbots.Tap
