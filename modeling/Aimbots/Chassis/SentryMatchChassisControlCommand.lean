import Aimbots.Chassis.AutoNavTimers

/-!
# `sentry_match_chassis_control_command.cpp`

The command moves the sentry between the places of its match states.  While `activeMovement` is set
it lets `autoNavCommand` drive, and when it finds that settled, and some time has passed, it lets
the robot spin in place.  The pathfinder and the referee's data are what an execute reads.

`autoNavCommand` and `tokyoCommand` both require the chassis, so of the two at most one is
scheduled.
-/

namespace Aimbots.Chassis

open Tap
open Pathfinding (Point)

/-- `ChassisMatchStates`. -/
inductive ChassisMatchStates
  | START
  | RESUPPLYING
  | GUARDING
  | RETREAT
  | AGGRO
  | CAPTURE
  | EVADE
deriving DecidableEq, Repr

/-- `STATE_LOCKOUT_TIMES`.  The array has no entry for `EVADE`, which is never a state when it is
read. -/
def STATE_LOCKOUT_TIMES : ChassisMatchStates → UInt32
  | .START => 0
  | .RESUPPLYING => 3000
  | .GUARDING => 0
  | .RETREAT => 0
  | .AGGRO => 5000
  | .CAPTURE => 10000
  | .EVADE => 0

/-- `MATCH_TIME_LENGTH`. -/
def MATCH_TIME_LENGTH : ℤ := 300

/-- The commands that the scheduler of the command has. -/
inductive ComprisedCommand
  | autoNavCommand
  | tokyoCommand
deriving DecidableEq, Repr

/-- What an `execute` reads: the referee's data, the clock each time it is asked, and what
`autoNavCommand` reads; `found` is the path that the pathfinder finds to a location. -/
structure SentryReading where
  inGame : Bool
  stageTimeRemaining : UInt16
  currentHp : UInt16
  settledTime : PollTime
  delayTime : UInt32
  lockoutRestartTime : UInt32
  lockoutTime : UInt32
  found : Point ℚ → List (Point ℚ)
  nav : NavReading

/-- The members of `SentryMatchChassisControlCommand` that it works with, `chassisState` among them,
which the gimbal and the feeder read. -/
structure SentryMatchChassisControlCommand where
  chassisState : ChassisMatchStates
  lastChassisState : ChassisMatchStates
  autoNavCommand : ChassisAutoNavCommand
  scheduled : Option ComprisedCommand
  delayTimer : Timeout
  lockoutTimer : Timeout
  activeMovement : Bool
deriving DecidableEq, Repr

namespace SentryMatchChassisControlCommand

/-- The constructor; the member that it does not initialise is an argument. -/
def construct (lastChassisState : ChassisMatchStates) (autoNavCommand : ChassisAutoNavCommand) :
    SentryMatchChassisControlCommand where
  chassisState := .START
  lastChassisState
  autoNavCommand
  scheduled := none
  delayTimer := .stopped
  lockoutTimer := .stopped
  activeMovement := false

/-- `updateChassisState`. -/
def updateChassisState (s : SentryMatchChassisControlCommand) (newState : ChassisMatchStates) :
    SentryMatchChassisControlCommand :=
  if s.chassisState ≠ newState then
    { s with lastChassisState := s.chassisState, chassisState := newState, activeMovement := true }
  else s

/-- `initialize`, with the times at which it restarts its timers. -/
def init (s : SentryMatchChassisControlCommand) (delayTime lockoutTime : UInt32) :
    SentryMatchChassisControlCommand :=
  let s := updateChassisState { s with chassisState := .GUARDING } .START
  { s with
    delayTimer := s.delayTimer.restart delayTime 500
    lockoutTimer := s.lockoutTimer.restart lockoutTime 0 }

/-- `execute`, the upkeep of a movement. -/
def upkeep (s : SentryMatchChassisControlCommand) (r : SentryReading) :
    SentryMatchChassisControlCommand :=
  if s.activeMovement then
    let settled := s.autoNavCommand.isSettled r.settledTime
    let s := { s with scheduled := some .autoNavCommand, autoNavCommand := settled.1 }
    if settled.2 && s.delayTimer.isExpired r.delayTime then
      { s with
        activeMovement := false
        lockoutTimer :=
          s.lockoutTimer.restart r.lockoutRestartTime (STATE_LOCKOUT_TIMES s.chassisState) }
    else s
  else
    { s with
      delayTimer := s.delayTimer.restart r.delayTime 500
      scheduled := some .tokyoCommand }

/-- `execute`, the logic for which state to use. -/
def chooseState (s : SentryMatchChassisControlCommand) (r : SentryReading) :
    SentryMatchChassisControlCommand :=
  let matchTimer := MATCH_TIME_LENGTH - r.stageTimeRemaining.toNat
  if s.lockoutTimer.isExpired r.lockoutTime then
    if s.chassisState = .START then s.updateChassisState .GUARDING
    else if s.chassisState = .AGGRO ∧ !s.activeMovement then s.updateChassisState .CAPTURE
    else if s.chassisState = .RETREAT ∧ matchTimer > 60 * 4 then s.updateChassisState .RESUPPLYING
    else if (s.chassisState = .RETREAT ∨ s.chassisState = .RESUPPLYING) ∧ r.currentHp ≥ 400 then
      s.updateChassisState .CAPTURE
    else s
  else s

/-- The location that a state moves to. -/
def destination : ChassisMatchStates → Option (Point ℚ)
  | .START => some (3.1, 3.5)
  | .GUARDING => some (3.0, 4.5)
  | .CAPTURE => some (6.5, 3.7)
  | .AGGRO => some (9.0, 0.5)
  | .RETREAT => some (1.5, 6.0)
  | .RESUPPLYING => some (0.5, 5.0)
  | .EVADE => none

/-- The path that the setup for the next state loads, if it loads one. -/
def setupPath (s : SentryMatchChassisControlCommand) (r : SentryReading) :
    Option (List (Point ℚ)) :=
  if s.chassisState ≠ s.lastChassisState then (destination s.chassisState).map r.found else none

/-- `execute`, the setup for the next state. -/
def setup (s : SentryMatchChassisControlCommand) (r : SentryReading) :
    SentryMatchChassisControlCommand :=
  { s with
    autoNavCommand :=
      match s.setupPath r with
      | some path => s.autoNavCommand.loadPath path
      | none => s.autoNavCommand
    lastChassisState := s.chassisState }

/-- `comprisedCommandScheduler.run`, as far as `autoNavCommand` goes. -/
def runScheduled (s : SentryMatchChassisControlCommand) (r : SentryReading) :
    SentryMatchChassisControlCommand :=
  match s.scheduled with
  | some .autoNavCommand => { s with autoNavCommand := (s.autoNavCommand.execute r.nav).1 }
  | _ => s

/-- `execute` in the game, up to the scheduler. -/
def prepare (s : SentryMatchChassisControlCommand) (r : SentryReading) :
    SentryMatchChassisControlCommand :=
  ((s.upkeep r).chooseState r).setup r

/-- `execute`. -/
def execute (s : SentryMatchChassisControlCommand) (r : SentryReading) :
    SentryMatchChassisControlCommand :=
  if r.inGame then (s.prepare r).runScheduled r else runScheduled { s with scheduled := none } r

/-- The path that an `execute` loads, if it loads one. -/
def loadedPath (s : SentryMatchChassisControlCommand) (r : SentryReading) :
    Option (List (Point ℚ)) :=
  if r.inGame then ((s.upkeep r).chooseState r).setupPath r else none

/-- The `execute` lets `autoNavCommand` drive, so that it computes its errors. -/
def drives (s : SentryMatchChassisControlCommand) (r : SentryReading) : Bool :=
  r.inGame && decide ((s.prepare r).scheduled = some .autoNavCommand) &&
    ((s.prepare r).autoNavCommand.execute r.nav).2.isSome

/-- `end`. -/
def finish (s : SentryMatchChassisControlCommand) : SentryMatchChassisControlCommand :=
  { s with scheduled := none, chassisState := .START }

/-! ### What an execute does -/

variable {s : SentryMatchChassisControlCommand} {r : SentryReading}

/-- The upkeep ends an active movement. -/
def ends (s : SentryMatchChassisControlCommand) (r : SentryReading) : Bool :=
  (s.autoNavCommand.isSettled r.settledTime).2 && s.delayTimer.isExpired r.delayTime

/-- The lockout timer after the upkeep of an active movement. -/
def lockoutAfter (s : SentryMatchChassisControlCommand) (r : SentryReading) : Timeout :=
  if s.ends r then s.lockoutTimer.restart r.lockoutRestartTime (STATE_LOCKOUT_TIMES s.chassisState)
  else s.lockoutTimer

theorem upkeep_of_active (hactive : s.activeMovement = true) :
    s.upkeep r =
      { s with
        scheduled := some .autoNavCommand
        autoNavCommand := (s.autoNavCommand.isSettled r.settledTime).1
        activeMovement := !s.ends r
        lockoutTimer := s.lockoutAfter r } := by
  rw [upkeep, if_pos hactive]
  unfold lockoutAfter
  cases hends : s.ends r <;> rw [ends] at hends <;> simp only [hends] <;> simp [hactive]

theorem upkeep_of_inactive (hactive : s.activeMovement = false) :
    s.upkeep r =
      { s with
        delayTimer := s.delayTimer.restart r.delayTime 500
        scheduled := some .tokyoCommand } := by
  simp [upkeep, hactive]

theorem chooseState_guarding (hstate : s.chassisState = .GUARDING) : s.chooseState r = s := by
  simp [chooseState, hstate]

theorem chooseState_start (hstate : s.chassisState = .START)
    (hlockout : s.lockoutTimer.isExpired r.lockoutTime = true) :
    s.chooseState r =
      { s with lastChassisState := .START, chassisState := .GUARDING, activeMovement := true } := by
  simp [chooseState, hstate, hlockout, updateChassisState]

theorem chooseState_locked (hlockout : s.lockoutTimer.isExpired r.lockoutTime = false) :
    s.chooseState r = s := by
  simp [chooseState, hlockout]

theorem setup_same (h : s.chassisState = s.lastChassisState) :
    s.setup r = s ∧ s.setupPath r = none := by
  have hpath : s.setupPath r = none := by simp [setupPath, h]
  refine ⟨?_, hpath⟩
  rw [setup, hpath, h]
  cases s
  cases h
  rfl

theorem setup_of_ne (location : Point ℚ) (h : s.chassisState ≠ s.lastChassisState)
    (hlocation : destination s.chassisState = some location) :
    s.setup r =
        { s with
          autoNavCommand := s.autoNavCommand.loadPath (r.found location)
          lastChassisState := s.chassisState } ∧
      s.setupPath r = some (r.found location) := by
  have hpath : s.setupPath r = some (r.found location) := by simp [setupPath, h, hlocation]
  exact ⟨by rw [setup, hpath], hpath⟩

/-- Out of the game nothing is scheduled. -/
theorem execute_of_not_inGame (h : r.inGame = false) :
    s.execute r = { s with scheduled := none } ∧ s.loadedPath r = none ∧ s.drives r = false := by
  simp [execute, loadedPath, drives, runScheduled, h]

theorem loadedPath_of_inGame (hgame : r.inGame = true) :
    s.loadedPath r = ((s.upkeep r).chooseState r).setupPath r := by
  rw [loadedPath, if_pos hgame]

/-- A robot whose `autoNavCommand` is scheduled drives. -/
theorem execute_of_autoNavCommand (hgame : r.inGame = true)
    (h : (s.prepare r).scheduled = some .autoNavCommand) :
    s.execute r =
        { s.prepare r with
          autoNavCommand := ((s.prepare r).autoNavCommand.execute r.nav).1 } ∧
      s.drives r = ((s.prepare r).autoNavCommand.execute r.nav).2.isSome := by
  simp [execute, drives, runScheduled, hgame, h]

theorem execute_of_tokyoCommand (hgame : r.inGame = true)
    (h : (s.prepare r).scheduled = some .tokyoCommand) :
    s.execute r = s.prepare r ∧ s.drives r = false := by
  simp [execute, drives, runScheduled, hgame, h]

/-- In `GUARDING` nothing else is chosen, and nothing is set up. -/
theorem prepare_guarding (hstate : (s.upkeep r).chassisState = .GUARDING)
    (hlast : (s.upkeep r).lastChassisState = .GUARDING) :
    s.prepare r = s.upkeep r ∧ ((s.upkeep r).chooseState r).setupPath r = none := by
  have hchoose : (s.upkeep r).chooseState r = s.upkeep r := chooseState_guarding hstate
  have hsetup := setup_same (s := s.upkeep r) (r := r) (hstate.trans hlast.symm)
  rw [prepare, hchoose, hsetup.1, hsetup.2]
  exact ⟨rfl, rfl⟩

/-- In `START`, with the lockout over, the movement of `GUARDING` is chosen and set up. -/
theorem prepare_start (hstate : (s.upkeep r).chassisState = .START)
    (hlockout : (s.upkeep r).lockoutTimer.isExpired r.lockoutTime = true) :
    s.prepare r =
        { s.upkeep r with
          chassisState := .GUARDING
          lastChassisState := .GUARDING
          autoNavCommand := (s.upkeep r).autoNavCommand.loadPath (r.found (3.0, 4.5))
          activeMovement := true } ∧
      ((s.upkeep r).chooseState r).setupPath r = some (r.found (3.0, 4.5)) := by
  have hchoose := chooseState_start (r := r) hstate hlockout
  have hsetup := setup_of_ne (s := (s.upkeep r).chooseState r) (r := r) (3.0, 4.5)
    (by rw [hchoose]; exact ChassisMatchStates.noConfusion) (by rw [hchoose]; rfl)
  rw [prepare, hsetup.1, hsetup.2, hchoose]
  exact ⟨rfl, rfl⟩

/-- In `GUARDING` an active movement goes on or ends. -/
theorem prepare_guarding_active (hactive : s.activeMovement = true)
    (hstate : s.chassisState = .GUARDING) (hlast : s.lastChassisState = .GUARDING) :
    s.prepare r =
        { s with
          autoNavCommand := (s.autoNavCommand.isSettled r.settledTime).1
          scheduled := some .autoNavCommand
          activeMovement := !s.ends r
          lockoutTimer := s.lockoutAfter r } ∧
      ((s.upkeep r).chooseState r).setupPath r = none := by
  have hupkeep := upkeep_of_active hactive (r := r)
  obtain ⟨hprepare, hpath⟩ := prepare_guarding (s := s) (r := r) (by rw [hupkeep]; exact hstate)
    (by rw [hupkeep]; exact hlast)
  exact ⟨hprepare.trans hupkeep, hpath⟩

/-- In `GUARDING` a robot that does not move spins in place. -/
theorem prepare_guarding_inactive (hactive : s.activeMovement = false)
    (hstate : s.chassisState = .GUARDING) (hlast : s.lastChassisState = .GUARDING) :
    s.prepare r =
        { s with
          delayTimer := s.delayTimer.restart r.delayTime 500
          scheduled := some .tokyoCommand } ∧
      ((s.upkeep r).chooseState r).setupPath r = none := by
  have hupkeep := upkeep_of_inactive hactive (r := r)
  obtain ⟨hprepare, hpath⟩ := prepare_guarding (s := s) (r := r) (by rw [hupkeep]; exact hstate)
    (by rw [hupkeep]; exact hlast)
  exact ⟨hprepare.trans hupkeep, hpath⟩

/-- In `START` an active movement goes over to that of `GUARDING`. -/
theorem prepare_start_active (hactive : s.activeMovement = true) (hstate : s.chassisState = .START)
    (hlockout : (s.lockoutAfter r).isExpired r.lockoutTime = true) :
    s.prepare r =
        { s with
          chassisState := .GUARDING
          lastChassisState := .GUARDING
          autoNavCommand :=
            (s.autoNavCommand.isSettled r.settledTime).1.loadPath (r.found (3.0, 4.5))
          scheduled := some .autoNavCommand
          lockoutTimer := s.lockoutAfter r } ∧
      ((s.upkeep r).chooseState r).setupPath r = some (r.found (3.0, 4.5)) := by
  have hupkeep := upkeep_of_active hactive (r := r)
  obtain ⟨hprepare, hpath⟩ := prepare_start (s := s) (r := r) (by rw [hupkeep]; exact hstate)
    (by rw [hupkeep]; exact hlockout)
  refine ⟨?_, hpath⟩
  rw [hprepare, hupkeep, hactive]

/-- In `START` a robot that does not move begins to, once the lockout is over; `autoNavCommand` is
given the path and does not drive yet. -/
theorem prepare_start_inactive (hactive : s.activeMovement = false)
    (hstate : s.chassisState = .START)
    (hlockout : s.lockoutTimer.isExpired r.lockoutTime = true) :
    s.prepare r =
        { s with
          chassisState := .GUARDING
          lastChassisState := .GUARDING
          autoNavCommand := s.autoNavCommand.loadPath (r.found (3.0, 4.5))
          delayTimer := s.delayTimer.restart r.delayTime 500
          scheduled := some .tokyoCommand
          activeMovement := true } ∧
      ((s.upkeep r).chooseState r).setupPath r = some (r.found (3.0, 4.5)) := by
  have hupkeep := upkeep_of_inactive hactive (r := r)
  obtain ⟨hprepare, hpath⟩ := prepare_start (s := s) (r := r) (by rw [hupkeep]; exact hstate)
    (by rw [hupkeep]; exact hlockout)
  refine ⟨?_, hpath⟩
  rw [hprepare, hupkeep]

/-- In `START`, with the lockout not over, a robot that does not move may be given a path. -/
theorem prepare_start_locked (hactive : s.activeMovement = false) (hstate : s.chassisState = .START)
    (hlockout : s.lockoutTimer.isExpired r.lockoutTime = false) :
    s.prepare r =
        { s with
          lastChassisState := .START
          autoNavCommand :=
            if s.lastChassisState = .START then s.autoNavCommand
            else s.autoNavCommand.loadPath (r.found (3.1, 3.5))
          delayTimer := s.delayTimer.restart r.delayTime 500
          scheduled := some .tokyoCommand } ∧
      ((s.upkeep r).chooseState r).setupPath r =
        if s.lastChassisState = .START then none else some (r.found (3.1, 3.5)) := by
  have hupkeep := upkeep_of_inactive hactive (r := r)
  have hchoose : (s.upkeep r).chooseState r = s.upkeep r :=
    chooseState_locked (by rw [hupkeep]; exact hlockout)
  rw [prepare, hchoose]
  by_cases hlast : s.lastChassisState = .START
  · have hsetup := setup_same (s := s.upkeep r) (r := r)
      (by rw [hupkeep]; exact hstate.trans hlast.symm)
    rw [if_pos hlast, if_pos hlast, hsetup.1, hsetup.2, hupkeep, ← hlast]
    exact ⟨rfl, rfl⟩
  · have hsetup := setup_of_ne (s := s.upkeep r) (r := r) (3.1, 3.5)
      (by rw [hupkeep]; exact fun h => hlast (h.symm.trans hstate))
      (by rw [hupkeep, hstate]; rfl)
    rw [if_neg hlast, if_neg hlast, hsetup.1, hsetup.2, hupkeep, hstate]
    exact ⟨rfl, rfl⟩

end SentryMatchChassisControlCommand

end Aimbots.Chassis
