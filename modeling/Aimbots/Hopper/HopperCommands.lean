import Aimbots.Hopper.HopperSubsystem
import Aimbots.Library.Run

/-!
# The commands of the hopper

`ToggleHopperCommand`, `OpenHopperCommand` and `CloseHopperCommand` on one `HopperSubsystem`.  The
first keeps a copy of the state, reads it before it changes it, and so commands the lid the one way
and tells the subsystem the other: `lidMatches_iff` says that the subsystem's state is the lid's as
long as the key is not used.
-/

namespace Aimbots.Hopper

open Run

/-- The data members of `ToggleHopperCommand` besides the angles. -/
structure ToggleHopperCommand where
  wasCPressed : Bool
  hopperClosed : Bool
deriving DecidableEq, Repr

namespace ToggleHopperCommand

variable (c : HopperConstants) (cmd : ToggleHopperCommand) (h : HopperSubsystem)

/-- The constructor. -/
def construct : ToggleHopperCommand := ⟨false, true⟩

/-- `hopperClosed ? HOPPER_CLOSED_ANGLE : HOPPER_OPEN_ANGLE`. -/
def angle : ℚ := if cmd.hopperClosed then c.HOPPER_CLOSED_ANGLE else c.HOPPER_OPEN_ANGLE

/-- `initialize`. -/
def init : HopperSubsystem := h.setHopperAngle c (cmd.angle c)

/-- The key is up, and an earlier `execute` saw it down. -/
def released (keyC : Bool) : Bool := cmd.wasCPressed && !keyC

/-- `execute`; `keyC` says whether C is down. -/
def execute (keyC : Bool) : ToggleHopperCommand × HopperSubsystem :=
  let cmd := if keyC then { cmd with wasCPressed := true } else cmd
  if cmd.wasCPressed && !keyC then
    let h := h.setHopperAngle c (cmd.angle c)
    let cmd := { cmd with hopperClosed := !cmd.hopperClosed }
    let h := h.setHopperState (if cmd.hopperClosed then .CLOSED else .OPEN)
    ({ cmd with wasCPressed := false }, h)
  else (cmd, h)

end ToggleHopperCommand

/-- `OpenHopperCommand::initialize`; its `execute` does nothing. -/
def OpenHopperCommand.init (c : HopperConstants) (h : HopperSubsystem) : HopperSubsystem :=
  (h.setHopperAngle c c.HOPPER_OPEN_ANGLE).setHopperState .OPEN

/-- `CloseHopperCommand::initialize`; its `execute` does nothing. -/
def CloseHopperCommand.init (c : HopperConstants) (h : HopperSubsystem) : HopperSubsystem :=
  (h.setHopperAngle c c.HOPPER_CLOSED_ANGLE).setHopperState .CLOSED

/-! ### Runs of the three commands -/

/-- The calls of the scheduler. -/
inductive HopperEvent
  | toggleInit
  | toggleExecute (keyC : Bool)
  | openInit
  | openExecute
  | closeInit
  | closeExecute
deriving DecidableEq, Repr

/-- The subsystem and the one command that has a state. -/
structure HopperRun where
  toggle : ToggleHopperCommand
  hopper : HopperSubsystem
deriving DecidableEq, Repr

namespace HopperRun

variable (c : HopperConstants)

/-- Before the first call. -/
def start : HopperRun := ⟨.construct, .construct⟩

/-- One call. -/
def next (run : HopperRun) : HopperEvent → HopperRun
  | .toggleInit => { run with hopper := run.toggle.init c run.hopper }
  | .toggleExecute keyC =>
    let (toggle, hopper) := run.toggle.execute c run.hopper keyC
    ⟨toggle, hopper⟩
  | .openInit => { run with hopper := OpenHopperCommand.init c run.hopper }
  | .closeInit => { run with hopper := CloseHopperCommand.init c run.hopper }
  | .openExecute | .closeExecute => run

/-- The call is the `execute` that sees C released after it was pressed. -/
def Toggles (run : HopperRun) : HopperEvent → Prop
  | .toggleExecute keyC => run.toggle.released keyC = true
  | _ => False

/-- The call commands the lid. -/
def CommandsLid (run : HopperRun) : HopperEvent → Prop
  | .toggleInit | .openInit | .closeInit => True
  | e => run.Toggles e

/-- If the call commands the lid, the state is the lid's after it; if it is the end of a
press-and-release, the commanded angle has changed. -/
def LidMatches (run : HopperRun) (e : HopperEvent) : Prop :=
  (run.CommandsLid e → (run.next c e).hopper.Matches c) ∧
    (run.Toggles e → (run.next c e).hopper.desiredAngle ≠ run.hopper.desiredAngle)

/-- The call is neither the end of a press-and-release nor an `initialize` of `ToggleHopperCommand`
while the lid is open. -/
def LeavesLid (run : HopperRun) (e : HopperEvent) : Prop :=
  ¬ run.Toggles e ∧ (e = .toggleInit → run.hopper.hopperState = .CLOSED)

variable {c} {run : HopperRun} {keyC : Bool}

/-- **A press-and-release** sends the lid one way and has the state say the other. -/
theorem next_of_released (hreleased : run.toggle.released keyC = true) :
    run.next c (.toggleExecute keyC) =
      ⟨⟨false, !run.toggle.hopperClosed⟩,
        (run.hopper.setHopperAngle c (run.toggle.angle c)).setHopperState
          (if run.toggle.hopperClosed then .OPEN else .CLOSED)⟩ := by
  obtain ⟨hpressed, hkey⟩ := Bool.and_eq_true_iff.1 hreleased
  cases keyC with
  | true => cases hkey
  | false => cases hclosed : run.toggle.hopperClosed <;>
      simp [next, ToggleHopperCommand.execute, ToggleHopperCommand.angle, hpressed, hclosed]

theorem next_of_not_released (hreleased : ¬ run.toggle.released keyC = true) :
    run.next c (.toggleExecute keyC) =
      ⟨{ run.toggle with wasCPressed := keyC }, run.hopper⟩ := by
  obtain ⟨⟨wasCPressed, hopperClosed⟩, hopper⟩ := run
  cases keyC <;> cases wasCPressed <;>
    simp_all [next, ToggleHopperCommand.execute, ToggleHopperCommand.released]

theorem not_matches_of_released (hreleased : run.toggle.released keyC = true) :
    ¬ (run.next c (.toggleExecute keyC)).hopper.Matches c := by
  rw [next_of_released hreleased, ToggleHopperCommand.angle]
  cases run.toggle.hopperClosed
  · exact HopperSubsystem.not_matches_open_closed _
  · exact HopperSubsystem.not_matches_closed_open _

/-- As long as the key is not used, the command's copy says that the lid is closed. -/
theorem lidMatches_iff_step (hclosed : run.toggle.hopperClosed = true) (e : HopperEvent) :
    run.LidMatches c e ↔ run.LeavesLid e := by
  cases e with
  | toggleInit =>
    have hmatches : (run.next c .toggleInit).hopper.Matches c ↔
        run.hopper.hopperState = .CLOSED := by
      simp only [next, ToggleHopperCommand.init, ToggleHopperCommand.angle, hclosed,
        HopperSubsystem.Matches, HopperSubsystem.isHopperOpen, HopperSubsystem.setHopperAngle]
      cases run.hopper.hopperState <;> simp [c.open_ne_closed.symm]
    simp [LidMatches, LeavesLid, CommandsLid, Toggles, hmatches]
  | toggleExecute keyC =>
    by_cases hreleased : run.toggle.released keyC = true
    · refine iff_of_false (fun h => ?_) fun h => h.1 hreleased
      exact not_matches_of_released hreleased (h.1 hreleased)
    · simp [LidMatches, LeavesLid, CommandsLid, Toggles, hreleased]
  | openInit => simp [LidMatches, LeavesLid, CommandsLid, Toggles, next, OpenHopperCommand.init]
  | closeInit => simp [LidMatches, LeavesLid, CommandsLid, Toggles, next, CloseHopperCommand.init]
  | openExecute => simp [LidMatches, LeavesLid, CommandsLid, Toggles]
  | closeExecute => simp [LidMatches, LeavesLid, CommandsLid, Toggles]

theorem next_hopperClosed (hclosed : run.toggle.hopperClosed = true) {e : HopperEvent}
    (htoggles : ¬ run.Toggles e) : (run.next c e).toggle.hopperClosed = true := by
  cases e with
  | toggleExecute keyC =>
    rw [next_of_not_released htoggles]
    exact hclosed
  | toggleInit | openInit | openExecute | closeInit | closeExecute => exact hclosed

/-- **When the state is the lid's**: in a run without a press-and-release in which
`ToggleHopperCommand` is only initialized while the lid is closed. -/
theorem lidMatches_iff (c : HopperConstants) (events : List HopperEvent) :
    Each (next c) (LidMatches c) start events ↔ Each (next c) LeavesLid start events := by
  refine each_iff_of_step (fun run e hclosed => lidMatches_iff_step hclosed e) ?_ rfl
  exact fun run e hclosed hleaves => next_hopperClosed hclosed hleaves.1

/-- One press-and-release on a standard: the lid is closed and said to be open, and has not
moved. -/
theorem not_lidMatches_standard :
    ¬ Each (next Robot.standard.constants) (LidMatches Robot.standard.constants) start
      [.toggleInit, .toggleExecute true, .toggleExecute false] ∧
    after (next Robot.standard.constants) start
        [.toggleInit, .toggleExecute true, .toggleExecute false] =
      ⟨⟨false, false⟩,
        ⟨.OPEN, some 77, some (HopperSubsystem.pwmOfAngle Robot.standard.constants 77)⟩⟩ := by
  refine ⟨fun h => ?_, by rfl⟩
  have hlast := each_iff_forall.1 h [.toggleInit, .toggleExecute true] (.toggleExecute false) [] rfl
  exact not_matches_of_released (by rfl) (hlast.1 (by rfl))

end HopperRun

end Aimbots.Hopper
