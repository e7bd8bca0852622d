import Aimbots.Ballistics.Trajectory
import Aimbots.Chassis.SentryMatchChassisControlCommand
import Aimbots.Jetson.Protocol
import Aimbots.Library.Run
import Aimbots.Tap.CommandScheduler
import Aimbots.Tap.WrappedFloat

/-!
# `sentry_match_firing_control_command.cpp`

The command schedules the feeder's full automatic fire while the sentry is in the game and its aim
is good, or has been good less than a second ago.  The clock is read once in a call.  The speed that
`execute` computes from the target's depth and the sentry's health is used nowhere.
-/

namespace Aimbots.Feeder

open Ballistics Chassis Tap Run

/-- `GameStage::IN_GAME`, a value of the byte that the referee system sends. -/
def IN_GAME : UInt8 := 4

/-- The commands that the scheduler of the command has. -/
inductive FiringCommand
  | stopFeederCommand
  | fullAutoFeederCommand
  | stopShooterCommand
  | runShooterCommand
deriving DecidableEq, Repr

/-- The subsystems that are registered with it. -/
inductive FiringSubsystem
  | feeder
  | shooter
deriving DecidableEq, Repr

/-- What the constructors and `isReady` of the commands say. -/
def FiringCommand.table : CommandTable FiringCommand FiringSubsystem where
  getRequirementsBitwise
    | .stopFeederCommand | .fullAutoFeederCommand => {.feeder}
    | .stopShooterCommand | .runShooterCommand => {.shooter}
  isReady _ := true

/-- What an `execute` reads. -/
structure FiringReading where
  now : UInt32
  isJetsonOnline : Bool
  gameStage : UInt8
  cvState : UInt8
  targetY : ℝ
  yawTargetGimbal : ℝ
  yawCurrentGimbal : WrappedFloat (-Real.pi) Real.pi
  pitchTargetGimbal : ℝ
  pitchCurrentGimbal : WrappedFloat (-Real.pi) Real.pi
  chassisState : ChassisMatchStates

/-- `isErrorCloseEnoughToShoot`: a target is found, and both errors of the aim are within
tolerance. -/
def FiringReading.isErrorCloseEnoughToShoot (r : FiringReading) : Prop :=
  r.cvState = Jetson.CVState.FOUND ∧
    withinAimingTolerance
      (r.yawCurrentGimbal.minDifference (.construct r.yawTargetGimbal))
      (r.pitchCurrentGimbal.minDifference (.construct r.pitchTargetGimbal))
      r.targetY

/-- The data members of `SentryMatchFiringControlCommand` that it works with. -/
structure SentryMatchFiringControlCommand where
  comprisedCommandScheduler : CommandScheduler FiringCommand FiringSubsystem
  refireTimer : Timeout
  shootMinimumTime : Timeout

namespace SentryMatchFiringControlCommand

/-- The constructor. -/
def construct : SentryMatchFiringControlCommand :=
  ⟨⟨{.feeder, .shooter}, ∅⟩, .stopped, .stopped⟩

variable (cmd : SentryMatchFiringControlCommand)

/-- `scheduleIfNotScheduled`, with the command's scheduler. -/
def schedule (command : FiringCommand) : SentryMatchFiringControlCommand :=
  { cmd with
    comprisedCommandScheduler :=
      cmd.comprisedCommandScheduler.scheduleIfNotScheduled FiringCommand.table command }

/-- `descheduleIfScheduled`, with the command's scheduler. -/
def deschedule (command : FiringCommand) : SentryMatchFiringControlCommand :=
  { cmd with
    comprisedCommandScheduler := cmd.comprisedCommandScheduler.descheduleIfScheduled command }

/-- `initialize`. -/
def init (now : UInt32) : SentryMatchFiringControlCommand :=
  let cmd := (cmd.schedule .stopFeederCommand).schedule .runShooterCommand
  { cmd with
    shootMinimumTime := cmd.shootMinimumTime.restart now 0
    refireTimer := cmd.refireTimer.restart now 0 }

open Classical in
/-- The part of `execute` that sets `shootMinimumTime`. -/
noncomputable def aim (r : FiringReading) : SentryMatchFiringControlCommand :=
  if r.isErrorCloseEnoughToShoot then
    { cmd with shootMinimumTime := cmd.shootMinimumTime.restart r.now 1000 }
  else cmd

/-- The part of `execute` that fires. -/
def fire (r : FiringReading) : SentryMatchFiringControlCommand :=
  let refires := cmd.refireTimer.execute r.now
  let cmd := { cmd with refireTimer := refires.2 }
  if refires.1 then
    let cmd := (cmd.deschedule .fullAutoFeederCommand).schedule .fullAutoFeederCommand
    { cmd with refireTimer := cmd.refireTimer.restart r.now 2000 }
  else cmd

/-- `execute`. -/
noncomputable def execute (r : FiringReading) : SentryMatchFiringControlCommand :=
  if r.isJetsonOnline && r.gameStage == IN_GAME then
    let cmd := cmd.aim r
    if decide (r.chassisState ≠ ChassisMatchStates.EVADE) && !cmd.shootMinimumTime.isExpired r.now
    then cmd.fire r
    else cmd.schedule .stopFeederCommand
  else cmd.schedule .stopFeederCommand

/-- `end`. -/
def finish : SentryMatchFiringControlCommand :=
  (cmd.deschedule .fullAutoFeederCommand).schedule .stopFeederCommand

/-! ### What is scheduled -/

/-- The command is scheduled. -/
def Scheduled (command : FiringCommand) : Prop :=
  command ∈ cmd.comprisedCommandScheduler.addedCommandBitmap

/-- The scheduler as it always is. -/
structure Ready : Prop where
  registered : cmd.comprisedCommandScheduler.registeredSubsystemBitmap = {.feeder, .shooter}
  exclusive : cmd.comprisedCommandScheduler.Exclusive FiringCommand.table

/-- Exactly one of the feeder's commands is scheduled. -/
def OneFeeds : Prop := Xor (cmd.Scheduled .stopFeederCommand) (cmd.Scheduled .fullAutoFeederCommand)

variable {cmd}

theorem ready_construct : construct.Ready := ⟨rfl, fun _ h => absurd h (Finset.notMem_empty _)⟩

theorem Ready.addable (h : cmd.Ready) (command : FiringCommand) :
    cmd.comprisedCommandScheduler.Addable FiringCommand.table command := by
  refine ⟨rfl, ?_, ?_⟩
  · rw [h.registered]
    cases command <;> decide
  · cases command <;> decide

theorem Ready.schedule (h : cmd.Ready) (command : FiringCommand) : (cmd.schedule command).Ready :=
  ⟨CommandScheduler.registered_scheduleIfNotScheduled.trans h.registered,
    h.exclusive.scheduleIfNotScheduled⟩

theorem Ready.deschedule (h : cmd.Ready) (command : FiringCommand) :
    (cmd.deschedule command).Ready :=
  ⟨CommandScheduler.registered_descheduleIfScheduled.trans h.registered,
    h.exclusive.descheduleIfScheduled⟩

theorem scheduled_schedule (h : cmd.Ready) {command other : FiringCommand} :
    (cmd.schedule command).Scheduled other ↔
      other = command ∨ cmd.Scheduled other ∧
        FiringCommand.table.getRequirementsBitwise other ∩
          FiringCommand.table.getRequirementsBitwise command = ∅ :=
  CommandScheduler.mem_scheduleIfNotScheduled h.exclusive (h.addable command)

theorem oneFeeds_schedule_stop (h : cmd.Ready) :
    (cmd.schedule .stopFeederCommand).OneFeeds ∧
      ¬ (cmd.schedule .stopFeederCommand).Scheduled .fullAutoFeederCommand := by
  have hstop : (cmd.schedule .stopFeederCommand).Scheduled .stopFeederCommand :=
    (scheduled_schedule h).2 (Or.inl rfl)
  have hfull : ¬ (cmd.schedule .stopFeederCommand).Scheduled .fullAutoFeederCommand := by
    rw [scheduled_schedule h]
    simp [FiringCommand.table]
  exact ⟨Or.inl ⟨hstop, hfull⟩, hfull⟩

theorem oneFeeds_schedule_fullAuto (h : cmd.Ready) :
    (cmd.schedule .fullAutoFeederCommand).OneFeeds := by
  have hfull : (cmd.schedule .fullAutoFeederCommand).Scheduled .fullAutoFeederCommand :=
    (scheduled_schedule h).2 (Or.inl rfl)
  have hstop : ¬ (cmd.schedule .fullAutoFeederCommand).Scheduled .stopFeederCommand := by
    rw [scheduled_schedule h]
    simp [FiringCommand.table]
  exact Or.inr ⟨hfull, hstop⟩

theorem oneFeeds_schedule_shooter (h : cmd.Ready) (hone : cmd.OneFeeds) :
    (cmd.schedule .runShooterCommand).OneFeeds := by
  have hsame : ∀ feeds, feeds = FiringCommand.stopFeederCommand ∨
      feeds = FiringCommand.fullAutoFeederCommand →
      ((cmd.schedule .runShooterCommand).Scheduled feeds ↔ cmd.Scheduled feeds) := by
    rintro feeds (rfl | rfl)
    · rw [scheduled_schedule h]
      simp [FiringCommand.table]
    · rw [scheduled_schedule h]
      simp [FiringCommand.table]
  unfold OneFeeds
  rw [hsame _ (Or.inl rfl), hsame _ (Or.inr rfl)]
  exact hone

/-! ### What a call does -/

/-- The aim was good in a reading of the list. -/
def AimedAt (log : List FiringReading) (time : UInt32) : Prop :=
  ∃ past ∈ log, past.isErrorCloseEnoughToShoot ∧ past.now = time

theorem setWith_aim {log : List FiringReading} {clock : UInt32} {r : FiringReading}
    (h : cmd.shootMinimumTime.SetWith (AimedAt log) 1000 clock) (hclock : clock ≤ r.now) :
    (cmd.aim r).shootMinimumTime.SetWith (AimedAt (r :: log)) 1000 r.now := by
  unfold aim
  split_ifs with hclose
  · exact Timeout.setWith_restart cmd.shootMinimumTime ⟨r, List.mem_cons_self, hclose, rfl⟩
  · exact h.mono hclock fun _ => List.exists_mem_cons_of_exists

theorem ready_aim (h : cmd.Ready) (r : FiringReading) : (cmd.aim r).Ready := by
  unfold aim
  split_ifs
  · exact ⟨h.registered, h.exclusive⟩
  · exact h

theorem oneFeeds_aim (h : cmd.OneFeeds) (r : FiringReading) : (cmd.aim r).OneFeeds := by
  unfold aim
  split_ifs
  · exact h
  · exact h

theorem fire_spec (h : cmd.Ready) (hone : cmd.OneFeeds) (r : FiringReading) :
    (cmd.fire r).Ready ∧ (cmd.fire r).OneFeeds ∧
      (cmd.fire r).shootMinimumTime = cmd.shootMinimumTime := by
  unfold fire
  dsimp only
  split_ifs
  · have hready : ({ cmd with refireTimer := (cmd.refireTimer.execute r.now).2 } :
        SentryMatchFiringControlCommand).Ready := ⟨h.registered, h.exclusive⟩
    have hfull := (hready.deschedule .fullAutoFeederCommand).schedule .fullAutoFeederCommand
    exact ⟨⟨hfull.registered, hfull.exclusive⟩,
      oneFeeds_schedule_fullAuto (hready.deschedule .fullAutoFeederCommand), rfl⟩
  · exact ⟨⟨h.registered, h.exclusive⟩, hone, rfl⟩

/-- An `execute` may fire: the Jetson is online, the sentry is in the game and does not evade, and
`shootMinimumTime` runs. -/
def MayFire (cmd : SentryMatchFiringControlCommand) (r : FiringReading) : Prop :=
  r.isJetsonOnline = true ∧ r.gameStage = IN_GAME ∧ r.chassisState ≠ .EVADE ∧
    (cmd.aim r).shootMinimumTime.isExpired r.now = false

/-- **The two ways of an `execute`**: it may fire, or it schedules `stopFeederCommand`. -/
theorem execute_cases (cmd : SentryMatchFiringControlCommand) (r : FiringReading) :
    (cmd.MayFire r ∧ cmd.execute r = (cmd.aim r).fire r) ∨
      cmd.execute r = (cmd.aim r).schedule .stopFeederCommand ∨
        cmd.execute r = cmd.schedule .stopFeederCommand := by
  unfold execute
  dsimp only
  split_ifs with honline hfires
  · simp only [Bool.and_eq_true, beq_iff_eq, decide_eq_true_eq, Bool.not_eq_true'] at honline hfires
    exact Or.inl ⟨⟨honline.1, honline.2, hfires.1, hfires.2⟩, rfl⟩
  · exact Or.inr (Or.inl rfl)
  · exact Or.inr (Or.inr rfl)

end SentryMatchFiringControlCommand

open SentryMatchFiringControlCommand

/-! ### Runs -/

/-- A call that reaches the command. -/
inductive FiringEvent
  | init (now : UInt32)
  | execute (r : FiringReading)
  | finish

/-- The command, what the clock last said, and the readings of all `execute`s, the last one
first. -/
structure FiringRun where
  command : SentryMatchFiringControlCommand
  clock : UInt32
  log : List FiringReading

namespace FiringRun

/-- Before the first call. -/
def start : FiringRun := ⟨.construct, 0, []⟩

/-- One call. -/
noncomputable def next (run : FiringRun) : FiringEvent → FiringRun
  | .init now => ⟨run.command.init now, now, run.log⟩
  | .execute r => ⟨run.command.execute r, r.now, r :: run.log⟩
  | .finish => ⟨run.command.finish, run.clock, run.log⟩

/-- The clock does not go back. -/
def Ordered (run : FiringRun) : FiringEvent → Prop
  | .init now => run.clock ≤ now
  | .execute r => run.clock ≤ r.now
  | .finish => True

/-- **The interlock**: after an `execute` exactly one of the feeder's commands is scheduled, and
full automatic fire only if the Jetson is online, the sentry is in the game and does not evade, and
the aim was good less than a second ago. -/
def Interlocked (run : FiringRun) (e : FiringEvent) : Prop :=
  ∀ r, e = .execute r →
    (run.next e).command.OneFeeds ∧
      ((run.next e).command.Scheduled .fullAutoFeederCommand →
        r.isJetsonOnline = true ∧ r.gameStage = IN_GAME ∧ r.chassisState ≠ .EVADE ∧
          ∃ past ∈ (run.next e).log, past.isErrorCloseEnoughToShoot ∧ past.now ≤ r.now ∧
            r.now - past.now < 1000)

/-- What holds from the first `initialize` on. -/
structure Inv (run : FiringRun) : Prop where
  ready : run.command.Ready
  one : run.command.OneFeeds
  aimed : run.command.shootMinimumTime.SetWith (AimedAt run.log) 1000 run.clock

variable {run : FiringRun}

theorem inv_init (hready : run.command.Ready) (now : UInt32) : (run.next (.init now)).Inv := by
  have hstop := hready.schedule .stopFeederCommand
  have hboth := hstop.schedule .runShooterCommand
  exact ⟨⟨hboth.registered, hboth.exclusive⟩,
    oneFeeds_schedule_shooter hstop (oneFeeds_schedule_stop hready).1,
    Timeout.setWith_restart_zero run.command.shootMinimumTime _ _⟩

/-- **An `execute`** keeps the interlock. -/
theorem Inv.execute (h : run.Inv) {r : FiringReading} (hclock : run.clock ≤ r.now) :
    run.Interlocked (.execute r) ∧ (run.next (.execute r)).Inv := by
  have haimed := setWith_aim h.aimed hclock
  have hready := ready_aim h.ready r
  rcases execute_cases run.command r with ⟨⟨honline, hgame, hstate, hrunning⟩, heq⟩ | heq | heq
  · obtain ⟨hready', hone, htime⟩ := fire_spec hready (oneFeeds_aim h.one r) r
    obtain ⟨time, ⟨past, hpast, hclose, rfl⟩, hrecent⟩ :=
      haimed r.now (UInt32.le_refl _) hrunning
    rw [← heq] at hready' hone htime
    rw [← htime] at haimed
    refine ⟨?_, hready', hone, haimed⟩
    rintro r' ⟨⟩
    exact ⟨hone, fun _ => ⟨honline, hgame, hstate, past, hpast, hclose, hrecent⟩⟩
  · obtain ⟨hone, hnot⟩ := oneFeeds_schedule_stop hready
    have hready' := hready.schedule .stopFeederCommand
    have htime : ((run.command.aim r).schedule .stopFeederCommand).shootMinimumTime =
        (run.command.aim r).shootMinimumTime := rfl
    rw [← heq] at hone hnot hready' htime
    rw [← htime] at haimed
    refine ⟨?_, hready', hone, haimed⟩
    rintro r' ⟨⟩
    exact ⟨hone, fun hfull => absurd hfull hnot⟩
  · obtain ⟨hone, hnot⟩ := oneFeeds_schedule_stop h.ready
    have hready' := h.ready.schedule .stopFeederCommand
    have htime : (run.command.schedule .stopFeederCommand).shootMinimumTime =
        run.command.shootMinimumTime := rfl
    have hlater : run.command.shootMinimumTime.SetWith (AimedAt (r :: run.log)) 1000 r.now :=
      h.aimed.mono hclock fun _ => List.exists_mem_cons_of_exists
    rw [← heq] at hone hnot hready' htime
    rw [← htime] at hlater
    refine ⟨?_, hready', hone, hlater⟩
    rintro r' ⟨⟩
    exact ⟨hone, fun hfull => absurd hfull hnot⟩

theorem Inv.finish (h : run.Inv) : (run.next .finish).Inv := by
  have hready := h.ready.deschedule .fullAutoFeederCommand
  have hstop := hready.schedule .stopFeederCommand
  exact ⟨⟨hstop.registered, hstop.exclusive⟩, (oneFeeds_schedule_stop hready).1, h.aimed⟩

/-- **The firing interlock** holds in every run that starts with `initialize`. -/
theorem interlocked (now : UInt32) (events : List FiringEvent)
    (hordered : Each next Ordered start (.init now :: events)) :
    Each next Interlocked start (.init now :: events) := by
  have hfirst : start.Interlocked (.init now) := fun r hr => nomatch hr
  refine ⟨hfirst, Each.of_inv (fun run e h hlegal => ?_) (inv_init ready_construct now) hordered.2⟩
  cases e with
  | init now => exact ⟨(fun r hr => nomatch hr), inv_init h.ready now⟩
  | execute r => exact h.execute hlegal
  | finish => exact ⟨(fun r hr => nomatch hr), h.finish⟩

/-- A target one metre ahead, and an aim without error. -/
noncomputable def alignedReading (now : UInt32) : FiringReading where
  now := now
  isJetsonOnline := true
  gameStage := IN_GAME
  cvState := Jetson.CVState.FOUND
  targetY := 1
  yawTargetGimbal := 0
  yawCurrentGimbal := .construct 0
  pitchTargetGimbal := 0
  pitchCurrentGimbal := .construct 0
  chassisState := .GUARDING

theorem isErrorCloseEnoughToShoot_aligned (now : UInt32) :
    (alignedReading now).isErrorCloseEnoughToShoot := by
  have hpi : -Real.pi < Real.pi := by linarith [Real.pi_pos]
  refine ⟨rfl, ?_⟩
  rw [alignedReading, WrappedFloat.minDifference_self _ hpi]
  exact withinAimingTolerance_zero zero_le_one

/-- A run in which the sentry fires. -/
theorem interlocked_aligned :
    Each next Interlocked start [.init 0, .execute (alignedReading 10)] ∧
      (after next start [.init 0, .execute (alignedReading 10)]).command.Scheduled
        .fullAutoFeederCommand := by
  have hordered : (0 : UInt32) ≤ 0 ∧ (0 : UInt32) ≤ 10 := by decide
  refine ⟨interlocked 0 _ ⟨hordered.1, hordered.2, trivial⟩, ?_⟩
  have haim : (construct.init 0).aim (alignedReading 10) =
      { construct.init 0 with shootMinimumTime := ⟨true, false, 1010⟩ } :=
    if_pos (isErrorCloseEnoughToShoot_aligned 10)
  have hexecute : (construct.init 0).execute (alignedReading 10) =
      ((construct.init 0).aim (alignedReading 10)).fire (alignedReading 10) := by
    rw [SentryMatchFiringControlCommand.execute, if_pos (by decide)]
    dsimp only
    rw [haim, if_pos (by decide)]
  show ((construct.init 0).execute (alignedReading 10)).Scheduled .fullAutoFeederCommand
  rw [hexecute, haim]
  show FiringCommand.fullAutoFeederCommand ∈ _
  decide

end FiringRun

end Aimbots.Feeder
