import Aimbots.Jetson.Protocol
import Aimbots.Library.Run
import Aimbots.Tap.CommandScheduler
import Aimbots.Tap.Timeout

/-!
# `sentry_match_gimbal_control_command.cpp`

The command has the gimbal patrol until the vision finds a target, and chase from then on until it
has found none for `chaseTimeoutMillis`.  The clock is read once in a call.
-/

namespace Aimbots.Gimbal

open Tap Run

/-- The commands that the scheduler of the command has; both require the gimbal. -/
inductive SentryGimbalCommand
  | patrolCommand
  | chaseCommand
deriving DecidableEq, Repr

/-- What an `execute` reads. -/
structure SentryGimbalReading where
  now : UInt32
  isJetsonOnline : Bool
  cvState : UInt8
deriving DecidableEq, Repr

/-- The vision sees a target. -/
def SentryGimbalReading.sees (r : SentryGimbalReading) : Bool :=
  r.cvState == Jetson.CVState.FOUND || r.cvState == Jetson.CVState.FIRE

/-- The data members of `SentryMatchGimbalControlCommand` that it works with. -/
structure SentryMatchGimbalControlCommand where
  comprisedCommandScheduler : CommandScheduler SentryGimbalCommand Unit
  chaseTimeout : Timeout
  chaseTimeoutMillis : UInt32

namespace SentryMatchGimbalControlCommand

/-- The constructor; `chaseTimeout(0)` asks the clock. -/
def construct (chaseTimeoutMillis now : UInt32) : SentryMatchGimbalControlCommand :=
  ⟨.construct SentryGimbalCommand, Timeout.stopped.restart now 0, chaseTimeoutMillis⟩

variable (cmd : SentryMatchGimbalControlCommand)

/-- `scheduleIfNotScheduled`, with the command's scheduler. -/
def schedule (command : SentryGimbalCommand) : SentryMatchGimbalControlCommand :=
  { cmd with
    comprisedCommandScheduler :=
      cmd.comprisedCommandScheduler.scheduleIfNotScheduled (.single SentryGimbalCommand) command }

/-- `descheduleIfScheduled`, with the command's scheduler. -/
def deschedule (command : SentryGimbalCommand) : SentryMatchGimbalControlCommand :=
  { cmd with
    comprisedCommandScheduler := cmd.comprisedCommandScheduler.descheduleIfScheduled command }

/-- `initialize`. -/
def init : SentryMatchGimbalControlCommand :=
  if !cmd.comprisedCommandScheduler.isCommandScheduled .patrolCommand then
    cmd.schedule .patrolCommand
  else cmd

/-- The part of `execute` that chases. -/
def chase (r : SentryGimbalReading) : SentryMatchGimbalControlCommand :=
  if r.sees then
    { cmd.schedule .chaseCommand with
      chaseTimeout := cmd.chaseTimeout.restart r.now cmd.chaseTimeoutMillis }
  else cmd

/-- `execute`. -/
def execute (r : SentryGimbalReading) : SentryMatchGimbalControlCommand :=
  if !r.isJetsonOnline then cmd.schedule .patrolCommand
  else
    let cmd := cmd.chase r
    if cmd.chaseTimeout.isExpired r.now then cmd.schedule .patrolCommand else cmd

/-- `end`. -/
def finish : SentryMatchGimbalControlCommand :=
  (cmd.deschedule .patrolCommand).deschedule .chaseCommand

/-! ### What is scheduled -/

/-- The command is scheduled. -/
def Scheduled (command : SentryGimbalCommand) : Prop :=
  command ∈ cmd.comprisedCommandScheduler.addedCommandBitmap

/-- Exactly one of the commands is scheduled. -/
def OneScheduled : Prop := Xor (cmd.Scheduled .patrolCommand) (cmd.Scheduled .chaseCommand)

variable {cmd} {command : SentryGimbalCommand}

theorem oneScheduled (h : cmd.comprisedCommandScheduler.Single) (hmem : cmd.Scheduled command) :
    cmd.OneScheduled := by
  cases command with
  | patrolCommand =>
    refine Or.inl ⟨hmem, fun hchase => ?_⟩
    have heq := h.eq_of_mem _ hmem _ hchase
    cases heq
  | chaseCommand =>
    refine Or.inr ⟨hmem, fun hpatrol => ?_⟩
    have heq := h.eq_of_mem _ hmem _ hpatrol
    cases heq

theorem scheduled_schedule (h : cmd.comprisedCommandScheduler.Single)
    (command other : SentryGimbalCommand) :
    (cmd.schedule command).Scheduled other ↔ other = command := by
  have hadded := h.scheduleIfNotScheduled command
  unfold Scheduled schedule
  rw [hadded, Finset.mem_singleton]

theorem single_init (h : cmd.comprisedCommandScheduler.Single) :
    cmd.init.comprisedCommandScheduler.Single ∧ ∃ command, cmd.init.Scheduled command := by
  unfold init
  by_cases hmem : cmd.comprisedCommandScheduler.isCommandScheduled .patrolCommand
  · rw [if_neg (by simp [hmem])]
    exact ⟨h, .patrolCommand, CommandScheduler.isCommandScheduled_iff.1 hmem⟩
  · rw [if_pos (by simp [hmem])]
    exact ⟨h.single_schedule _, .patrolCommand, (scheduled_schedule h _ _).2 rfl⟩

theorem single_chase (h : cmd.comprisedCommandScheduler.Single) (r : SentryGimbalReading) :
    (cmd.chase r).comprisedCommandScheduler.Single := by
  unfold chase
  split_ifs
  · exact h.single_schedule _
  · exact h

theorem single_execute (h : cmd.comprisedCommandScheduler.Single) (r : SentryGimbalReading) :
    (cmd.execute r).comprisedCommandScheduler.Single := by
  unfold execute
  dsimp only
  split_ifs
  · exact h.single_schedule _
  · exact (single_chase h r).single_schedule _
  · exact single_chase h r

/-- A command that was scheduled stays so, or another one takes its place. -/
theorem scheduled_execute (h : cmd.comprisedCommandScheduler.Single) (hmem : cmd.Scheduled command)
    (r : SentryGimbalReading) : ∃ command, (cmd.execute r).Scheduled command := by
  unfold execute
  dsimp only
  split_ifs
  · exact ⟨.patrolCommand, (scheduled_schedule h _ _).2 rfl⟩
  · exact ⟨.patrolCommand, (scheduled_schedule (single_chase h r) _ _).2 rfl⟩
  · unfold chase
    split_ifs
    · exact ⟨.chaseCommand, (scheduled_schedule h .chaseCommand _).2 rfl⟩
    · exact ⟨command, hmem⟩

/-- The chase goes on only while `chaseTimeout` runs. -/
theorem running_of_chase (h : cmd.comprisedCommandScheduler.Single) {r : SentryGimbalReading}
    (hchase : (cmd.execute r).Scheduled .chaseCommand) :
    r.isJetsonOnline = true ∧ (cmd.chase r).chaseTimeout.isExpired r.now = false := by
  unfold execute at hchase
  dsimp only at hchase
  split_ifs at hchase with honline hexpired
  · cases (scheduled_schedule h .patrolCommand .chaseCommand).1 hchase
  · cases (scheduled_schedule (single_chase h r) .patrolCommand .chaseCommand).1 hchase
  · exact ⟨by simpa using honline, by simpa using hexpired⟩

/-- An `execute` that sees a target chases it, if `chaseTimeout` has not run out at once. -/
theorem chase_of_sees (h : cmd.comprisedCommandScheduler.Single) {r : SentryGimbalReading}
    (honline : r.isJetsonOnline = true) (hsees : r.sees = true)
    (hrunning : (cmd.chaseTimeout.restart r.now cmd.chaseTimeoutMillis).isExpired r.now = false) :
    (cmd.execute r).Scheduled .chaseCommand := by
  have hchase : cmd.chase r =
      { cmd.schedule .chaseCommand with
        chaseTimeout := cmd.chaseTimeout.restart r.now cmd.chaseTimeoutMillis } := if_pos hsees
  unfold execute
  rw [honline, if_neg (by simp), hchase]
  dsimp only
  rw [hrunning, if_neg Bool.false_ne_true]
  exact (scheduled_schedule h .chaseCommand .chaseCommand).2 rfl

/-- The vision saw a target in a reading of the list. -/
def SeenAt (log : List SentryGimbalReading) (time : UInt32) : Prop :=
  ∃ past ∈ log, past.sees = true ∧ past.now = time

theorem setWith_chase {log : List SentryGimbalReading} {clock : UInt32} {r : SentryGimbalReading}
    (h : cmd.chaseTimeout.SetWith (SeenAt log) cmd.chaseTimeoutMillis clock)
    (hclock : clock ≤ r.now) :
    (cmd.chase r).chaseTimeout.SetWith (SeenAt (r :: log)) cmd.chaseTimeoutMillis r.now := by
  unfold chase
  split_ifs with hsees
  · exact Timeout.setWith_restart cmd.chaseTimeout ⟨r, List.mem_cons_self, hsees, rfl⟩
  · exact h.mono hclock fun _ => List.exists_mem_cons_of_exists

theorem setWith_execute {log : List SentryGimbalReading} {clock : UInt32} {r : SentryGimbalReading}
    (h : cmd.chaseTimeout.SetWith (SeenAt log) cmd.chaseTimeoutMillis clock)
    (hclock : clock ≤ r.now) :
    (cmd.execute r).chaseTimeout.SetWith (SeenAt (r :: log)) cmd.chaseTimeoutMillis r.now := by
  unfold execute
  dsimp only
  split_ifs
  · exact h.mono hclock fun _ => List.exists_mem_cons_of_exists
  · exact setWith_chase h hclock
  · exact setWith_chase h hclock

theorem chaseTimeoutMillis_init : cmd.init.chaseTimeoutMillis = cmd.chaseTimeoutMillis := by
  unfold init
  split_ifs <;> rfl

theorem chaseTimeout_init : cmd.init.chaseTimeout = cmd.chaseTimeout := by
  unfold init
  split_ifs <;> rfl

theorem chaseTimeoutMillis_execute (r : SentryGimbalReading) :
    (cmd.execute r).chaseTimeoutMillis = cmd.chaseTimeoutMillis := by
  unfold execute chase
  dsimp only
  split_ifs <;> rfl

end SentryMatchGimbalControlCommand

open SentryMatchGimbalControlCommand

/-! ### Runs -/

/-- A call that reaches the command. -/
inductive SentryGimbalEvent
  | init
  | execute (r : SentryGimbalReading)
  | finish
deriving DecidableEq, Repr

/-- The command, whether it has been initialised and not ended since, what the clock last said, and
the readings of all `execute`s, the last one first. -/
structure SentryGimbalRun where
  command : SentryMatchGimbalControlCommand
  active : Bool
  clock : UInt32
  log : List SentryGimbalReading

namespace SentryGimbalRun

/-- Before the first call; the command is constructed at `now`. -/
def start (chaseTimeoutMillis now : UInt32) : SentryGimbalRun :=
  ⟨.construct chaseTimeoutMillis now, false, now, []⟩

/-- One call. -/
def next (run : SentryGimbalRun) : SentryGimbalEvent → SentryGimbalRun
  | .init => { run with command := run.command.init, active := true }
  | .execute r => ⟨run.command.execute r, run.active, r.now, r :: run.log⟩
  | .finish => { run with command := run.command.finish, active := false }

/-- The clock does not go back, and is not about to overflow. -/
def Timely (run : SentryGimbalRun) : SentryGimbalEvent → Prop
  | .execute r =>
    run.clock ≤ r.now ∧ r.now.toNat + run.command.chaseTimeoutMillis.toNat < UInt32.size
  | .init | .finish => True

instance (run : SentryGimbalRun) : ∀ e, Decidable (run.Timely e)
  | .execute r => inferInstanceAs (Decidable (run.clock ≤ r.now ∧
      r.now.toNat + run.command.chaseTimeoutMillis.toNat < UInt32.size))
  | .init | .finish => isTrue trivial

/-- **The arbitration** after an `execute`: exactly one command is scheduled, if the command is
active, and never both; `chaseCommand` only if the Jetson is online and an `execute` less than
`chaseTimeoutMillis` ago saw a target, and always if this one sees one. -/
def Arbitrated (run : SentryGimbalRun) (e : SentryGimbalEvent) : Prop :=
  ∀ r, e = .execute r →
    (run.active = true → (run.next e).command.OneScheduled) ∧
    ¬ ((run.next e).command.Scheduled .patrolCommand ∧
      (run.next e).command.Scheduled .chaseCommand) ∧
    ((run.next e).command.Scheduled .chaseCommand →
      r.isJetsonOnline = true ∧
        ∃ past ∈ (run.next e).log, past.sees = true ∧ past.now ≤ r.now ∧
          r.now - past.now < run.command.chaseTimeoutMillis) ∧
    (r.isJetsonOnline = true → r.sees = true → (run.next e).command.Scheduled .chaseCommand)

/-- What holds in every run. -/
structure Inv (run : SentryGimbalRun) : Prop where
  single : run.command.comprisedCommandScheduler.Single
  scheduled : run.active = true → ∃ command, run.command.Scheduled command
  seen : run.command.chaseTimeout.SetWith (SeenAt run.log) run.command.chaseTimeoutMillis run.clock
  positive : 0 < run.command.chaseTimeoutMillis

variable {run : SentryGimbalRun}

theorem inv_start {chaseTimeoutMillis : UInt32} (hpos : 0 < chaseTimeoutMillis) (now : UInt32) :
    (start chaseTimeoutMillis now).Inv :=
  ⟨CommandScheduler.single_construct, (Bool.noConfusion ·),
    Timeout.setWith_restart_zero Timeout.stopped _ _, hpos⟩

theorem Inv.init (h : run.Inv) : (run.next .init).Inv := by
  obtain ⟨hsingle, hscheduled⟩ := single_init h.single
  refine ⟨hsingle, fun _ => hscheduled, ?_, ?_⟩
  · show run.command.init.chaseTimeout.SetWith _ run.command.init.chaseTimeoutMillis _
    rw [chaseTimeout_init, chaseTimeoutMillis_init]
    exact h.seen
  · show 0 < run.command.init.chaseTimeoutMillis
    rw [chaseTimeoutMillis_init]
    exact h.positive

theorem Inv.finish (h : run.Inv) : (run.next .finish).Inv :=
  ⟨(h.single.single_deschedule _).single_deschedule _, (Bool.noConfusion ·), h.seen, h.positive⟩

theorem Inv.execute (h : run.Inv) {r : SentryGimbalReading} (hclock : run.clock ≤ r.now) :
    (run.next (.execute r)).Inv := by
  refine ⟨single_execute h.single r, fun hactive => ?_, ?_, ?_⟩
  · obtain ⟨command, hmem⟩ := h.scheduled hactive
    exact scheduled_execute h.single hmem r
  · show (run.command.execute r).chaseTimeout.SetWith _ (run.command.execute r).chaseTimeoutMillis _
    rw [chaseTimeoutMillis_execute]
    exact setWith_execute h.seen hclock
  · show 0 < (run.command.execute r).chaseTimeoutMillis
    rw [chaseTimeoutMillis_execute]
    exact h.positive

theorem Inv.arbitrated_execute (h : run.Inv) {r : SentryGimbalReading}
    (htimely : run.Timely (.execute r)) :
    run.Arbitrated (.execute r) := by
  obtain ⟨hclock, hmax⟩ := htimely
  have hsingle := single_execute h.single r
  rintro r' ⟨⟩
  refine ⟨fun hactive => ?_, fun hboth => ?_, fun hchase => ?_, fun honline hsees => ?_⟩
  · obtain ⟨command, hmem⟩ := h.scheduled hactive
    obtain ⟨command', hmem'⟩ := scheduled_execute h.single hmem r
    exact oneScheduled hsingle hmem'
  · cases hsingle.eq_of_mem _ hboth.1 _ hboth.2
  · obtain ⟨honline, hrunning⟩ := running_of_chase h.single hchase
    obtain ⟨time, ⟨past, hpast, hsees, rfl⟩, hrecent⟩ :=
      setWith_chase h.seen hclock r.now (UInt32.le_refl _) hrunning
    exact ⟨honline, past, hpast, hsees, hrecent⟩
  · exact chase_of_sees h.single honline hsees (Timeout.not_expired_restart _ h.positive hmax)

/-- **The arbitration** holds in every run. -/
theorem arbitrated {chaseTimeoutMillis : UInt32} (hpos : 0 < chaseTimeoutMillis) (now : UInt32)
    (events : List SentryGimbalEvent)
    (htimely : Each next Timely (start chaseTimeoutMillis now) events) :
    Each next Arbitrated (start chaseTimeoutMillis now) events := by
  refine Each.of_inv (fun run e h htimely => ?_) (inv_start hpos now) htimely
  cases e with
  | init => exact ⟨(fun r hr => nomatch hr), h.init⟩
  | execute r => exact ⟨h.arbitrated_execute htimely, h.execute htimely.1⟩
  | finish => exact ⟨(fun r hr => nomatch hr), h.finish⟩

/-- A chase that ends by its timeout in the next activation. -/
def chaseEvents : List SentryGimbalEvent :=
  [.init, .execute ⟨100, true, Jetson.CVState.FIRE⟩, .finish, .init,
    .execute ⟨700, true, Jetson.CVState.NOT_FOUND⟩]

theorem arbitrated_chase :
    Each next Arbitrated (start 500 0) chaseEvents ∧
      (after next (start 500 0) chaseEvents).command.Scheduled .patrolCommand :=
  ⟨arbitrated (by decide) 0 chaseEvents (by decide),
    CommandScheduler.isCommandScheduled_iff.1 (by decide)⟩

end SentryGimbalRun

end Aimbots.Gimbal
