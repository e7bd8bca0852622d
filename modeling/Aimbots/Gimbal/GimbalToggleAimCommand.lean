import Aimbots.Library.Numerals
import Aimbots.Library.Run
import Aimbots.Tap.CommandScheduler
import Aimbots.Tap.Timeout
import Mathlib.Analysis.SpecialFunctions.Trigonometric.Basic

/-!
# `gimbal_toggle_aiming_command.cpp`: the driver's aiming

The driver aims the gimbal freely, or has the vision aim it while the right button of the mouse is
pressed.  Either way a press and a release of Q or E turn the target by a quarter turn, except that
F, which changes the mode of the chassis, has them ignored for a while.  The clock is read once in a
call.

The latches of the keys live on while their command is not scheduled, so that a key that is pressed
before and released after turns the target as well, and a key that is still held when quick turns
are no longer ignored turns it like one that is pressed then: `turns_iff`.
-/

namespace Aimbots.Gimbal

open Tap Run
open scoped Numerals

/-- The keys that turn the gimbal. -/
inductive TurnKey
  | Q
  | E
deriving DecidableEq, Repr

/-- What an `execute` reads: the clock, the keys and the mouse, the controller's target yaw, the
driver's yaw input, and the yaw angle of the ballistics solution, if there is one. -/
structure AimReading where
  now : UInt32
  keyQ : Bool
  keyE : Bool
  keyF : Bool
  mouseR : Bool
  targetYaw : ℝ
  yawInput : ℝ
  ballisticsYaw : Option ℝ

/-- `keyPressed`. -/
def AimReading.keyPressed (r : AimReading) : TurnKey → Bool
  | .Q => r.keyQ
  | .E => r.keyE

/-- The members that both commands have for quick turns. -/
structure QuickTurns where
  wasQPressed : Bool
  wasEPressed : Bool
  ignoreQuickTurns : Bool
deriving DecidableEq, Repr

namespace QuickTurns

/-- The first lines of both `execute`s: the offset by which the keys turn the target. -/
noncomputable def execute (t : QuickTurns) (r : AimReading) (turn : ℝ) : QuickTurns × ℝ :=
  let quickTurnOffset := 0
  let t := if r.keyQ && !t.ignoreQuickTurns then { t with wasQPressed := true } else t
  let (t, quickTurnOffset) :=
    if t.wasQPressed && !r.keyQ then ({ t with wasQPressed := false }, quickTurnOffset + turn)
    else (t, quickTurnOffset)
  let t := if r.keyE && !t.ignoreQuickTurns then { t with wasEPressed := true } else t
  if t.wasEPressed && !r.keyE then ({ t with wasEPressed := false }, quickTurnOffset - turn)
  else (t, quickTurnOffset)

/-- The latch of a key. -/
def latch (t : QuickTurns) : TurnKey → Bool
  | .Q => t.wasQPressed
  | .E => t.wasEPressed

/-- The key turns the target. -/
def turns (t : QuickTurns) (r : AimReading) (key : TurnKey) : Bool :=
  t.latch key && !r.keyPressed key

variable (t : QuickTurns) (r : AimReading) (turn : ℝ)

theorem execute_offset :
    (t.execute r turn).2 =
      (if t.turns r .Q then turn else 0) - if t.turns r .E then turn else 0 := by
  obtain ⟨wasQ, wasE, ignore⟩ := t
  unfold execute turns latch AimReading.keyPressed
  cases r.keyQ <;> cases r.keyE <;> cases wasQ <;> cases wasE <;> cases ignore <;> simp

/-- **The latch** of a key after an `execute`. -/
theorem execute_latch (key : TurnKey) :
    (t.execute r turn).1.latch key =
      (r.keyPressed key && (!t.ignoreQuickTurns || t.latch key)) := by
  obtain ⟨wasQ, wasE, ignore⟩ := t
  unfold execute latch AimReading.keyPressed
  cases key <;> cases r.keyQ <;> cases r.keyE <;> cases wasQ <;> cases wasE <;> cases ignore <;> rfl

end QuickTurns

/-- The members of `GimbalFieldRelativeControlCommand` for its quick turns. -/
structure GimbalFieldRelativeControlCommand extends QuickTurns where
  quickTurnOffset : Option ℝ

/-- The members of `GimbalChaseCommand` for its quick turns. -/
structure GimbalChaseCommand extends QuickTurns

/-- `GimbalFieldRelativeControlCommand::execute`: the yaw angle that it sets as target. -/
noncomputable def GimbalFieldRelativeControlCommand.execute
    (cmd : GimbalFieldRelativeControlCommand)
    (r : AimReading) : GimbalFieldRelativeControlCommand × ℝ :=
  let (t, quickTurnOffset) :=
    cmd.toQuickTurns.execute r (cmd.quickTurnOffset.getD (Real.pi / 2))
  ({ cmd with toQuickTurns := t }, r.targetYaw + quickTurnOffset - r.yawInput)

/-- `GimbalChaseCommand::execute`: the same, but a ballistics solution comes first. -/
noncomputable def GimbalChaseCommand.execute (cmd : GimbalChaseCommand) (r : AimReading) :
    GimbalChaseCommand × ℝ :=
  let (t, quickTurnOffset) := cmd.toQuickTurns.execute r (Real.pi / 2)
  (⟨t⟩, r.ballisticsYaw.getD (r.targetYaw + quickTurnOffset - r.yawInput))

/-- The commands that the scheduler of the command has; both require the gimbal. -/
inductive AimCommand
  | gimbalCVCommand
  | gimbalFreeAimCommand
deriving DecidableEq, Repr

/-- The data members of `GimbalToggleAimCommand` that it works with. -/
structure GimbalToggleAimCommand where
  comprisedCommandScheduler : CommandScheduler AimCommand Unit
  gimbalCVCommand : GimbalChaseCommand
  gimbalFreeAimCommand : GimbalFieldRelativeControlCommand
  ignoreQuickTurn : Timeout

namespace GimbalToggleAimCommand

/-- The constructor. -/
def construct (quickTurnOffset : Option ℝ) : GimbalToggleAimCommand :=
  ⟨.construct AimCommand, ⟨⟨false, false, false⟩⟩, ⟨⟨false, false, false⟩, quickTurnOffset⟩,
    .stopped⟩

variable (cmd : GimbalToggleAimCommand)

/-- The command is scheduled. -/
def isScheduled (command : AimCommand) : Bool :=
  cmd.comprisedCommandScheduler.isCommandScheduled command

/-- `initialize`. -/
def init (now : UInt32) : GimbalToggleAimCommand :=
  let scheduler := cmd.comprisedCommandScheduler
  let scheduler :=
    if !scheduler.isCommandScheduled .gimbalCVCommand then scheduler.removeCommand .gimbalCVCommand
    else scheduler
  let scheduler :=
    if !scheduler.isCommandScheduled .gimbalFreeAimCommand then
      scheduler.addCommand (.single AimCommand) .gimbalFreeAimCommand
    else scheduler
  { cmd with
    comprisedCommandScheduler := scheduler
    ignoreQuickTurn := cmd.ignoreQuickTurn.restart now 0 }

/-- `setIgnoreQuickTurn`, of both commands. -/
def setIgnoreQuickTurn (ignore : Bool) : GimbalToggleAimCommand :=
  { cmd with
    gimbalCVCommand :=
      { cmd.gimbalCVCommand with ignoreQuickTurns := ignore }
    gimbalFreeAimCommand :=
      { cmd.gimbalFreeAimCommand with ignoreQuickTurns := ignore } }

/-- The part of `execute` that looks at F. -/
def heed (r : AimReading) : GimbalToggleAimCommand :=
  if r.keyF then
    { cmd.setIgnoreQuickTurn true with ignoreQuickTurn := cmd.ignoreQuickTurn.restart r.now 500 }
  else
    let executes := cmd.ignoreQuickTurn.execute r.now
    let cmd := { cmd with ignoreQuickTurn := executes.2 }
    if executes.1 then cmd.setIgnoreQuickTurn false else cmd

/-- The part of `execute` that chooses the command. -/
def choose (r : AimReading) : GimbalToggleAimCommand :=
  { cmd with
    comprisedCommandScheduler :=
      cmd.comprisedCommandScheduler.scheduleIfNotScheduled (.single AimCommand)
        (if r.mouseR then .gimbalCVCommand else .gimbalFreeAimCommand) }

/-- `run()` of the command's scheduler, and the target yaw that is set. -/
noncomputable def runScheduled (r : AimReading) : GimbalToggleAimCommand × Option ℝ :=
  let (cmd, targetYaw) :=
    if cmd.isScheduled .gimbalCVCommand then
      ({ cmd with gimbalCVCommand := (cmd.gimbalCVCommand.execute r).1 },
        some (cmd.gimbalCVCommand.execute r).2)
    else (cmd, none)
  if cmd.isScheduled .gimbalFreeAimCommand then
    ({ cmd with gimbalFreeAimCommand := (cmd.gimbalFreeAimCommand.execute r).1 },
      some (cmd.gimbalFreeAimCommand.execute r).2)
  else (cmd, targetYaw)

/-- `execute`. -/
noncomputable def execute (r : AimReading) : GimbalToggleAimCommand × Option ℝ :=
  ((cmd.heed r).choose r).runScheduled r

/-- `end`. -/
def finish : GimbalToggleAimCommand :=
  { cmd with
    comprisedCommandScheduler :=
      (cmd.comprisedCommandScheduler.descheduleIfScheduled .gimbalCVCommand).descheduleIfScheduled
        .gimbalFreeAimCommand }

/-! ### What a call does to free aim -/

variable {cmd}

theorem single_init (h : cmd.comprisedCommandScheduler.Single) (now : UInt32) :
    (cmd.init now).comprisedCommandScheduler.Single := by
  have hremove : (cmd.comprisedCommandScheduler.removeCommand .gimbalCVCommand).Single :=
    ⟨h.registered, fun first hfirst second hsecond =>
      h.eq_of_mem first (Finset.mem_of_mem_erase hfirst) second
        (Finset.mem_of_mem_erase hsecond)⟩
  unfold init
  dsimp only
  split_ifs
  · exact hremove.single_add _
  · exact hremove
  · exact h.single_add _
  · exact h

@[simp] theorem heed_scheduler (r : AimReading) :
    (cmd.heed r).comprisedCommandScheduler = cmd.comprisedCommandScheduler := by
  unfold heed
  dsimp only
  split_ifs <;> rfl

/-- F changes what is ignored, and no latch. -/
theorem heed_latch (r : AimReading) (key : TurnKey) :
    (cmd.heed r).gimbalFreeAimCommand.latch key = cmd.gimbalFreeAimCommand.latch key := by
  unfold heed
  dsimp only
  split_ifs <;> cases key <;> rfl

theorem heed_quickTurnOffset (r : AimReading) :
    (cmd.heed r).gimbalFreeAimCommand.quickTurnOffset =
      cmd.gimbalFreeAimCommand.quickTurnOffset := by
  unfold heed
  dsimp only
  split_ifs <;> rfl

theorem isScheduled_choose (h : cmd.comprisedCommandScheduler.Single) (r : AimReading)
    (command : AimCommand) :
    ((cmd.heed r).choose r).isScheduled command =
      decide (command = if r.mouseR then .gimbalCVCommand else .gimbalFreeAimCommand) := by
  have hadded := h.scheduleIfNotScheduled
    (if r.mouseR then AimCommand.gimbalCVCommand else .gimbalFreeAimCommand)
  unfold isScheduled choose CommandScheduler.isCommandScheduled
  rw [heed_scheduler, hadded]
  simp only [Finset.mem_singleton]

/-- **An `execute` that aims freely.** -/
theorem execute_free (h : cmd.comprisedCommandScheduler.Single) {r : AimReading}
    (hr : r.mouseR = false) :
    (cmd.execute r).1.gimbalFreeAimCommand = ((cmd.heed r).gimbalFreeAimCommand.execute r).1 ∧
      (cmd.execute r).2 = some ((cmd.heed r).gimbalFreeAimCommand.execute r).2 := by
  have hcv := isScheduled_choose h r .gimbalCVCommand
  have hfree := isScheduled_choose h r .gimbalFreeAimCommand
  rw [hr] at hcv hfree
  unfold execute runScheduled
  rw [if_neg (by rw [hcv]; decide)]
  dsimp only
  rw [if_pos (by rw [hfree]; rfl)]
  exact ⟨rfl, rfl⟩

/-- **An `execute` that leaves the aim to the vision.** -/
theorem execute_cv (h : cmd.comprisedCommandScheduler.Single) {r : AimReading}
    (hr : r.mouseR = true) :
    (cmd.execute r).1.gimbalFreeAimCommand = (cmd.heed r).gimbalFreeAimCommand := by
  have hcv := isScheduled_choose h r .gimbalCVCommand
  have hfree := isScheduled_choose h r .gimbalFreeAimCommand
  rw [hr] at hcv hfree
  unfold execute runScheduled
  rw [if_pos (by rw [hcv]; rfl)]
  dsimp only
  rw [if_neg]
  · rfl
  · show ¬ ((cmd.heed r).choose r).isScheduled .gimbalFreeAimCommand = true
    rw [hfree]
    decide

theorem single_execute (h : cmd.comprisedCommandScheduler.Single) (r : AimReading) :
    (cmd.execute r).1.comprisedCommandScheduler.Single := by
  have hkept : (cmd.execute r).1.comprisedCommandScheduler =
      ((cmd.heed r).choose r).comprisedCommandScheduler := by
    unfold execute runScheduled
    dsimp only
    split_ifs <;> rfl
  have hheed : (cmd.heed r).comprisedCommandScheduler.Single := by rwa [heed_scheduler]
  rw [hkept]
  exact hheed.single_schedule _

end GimbalToggleAimCommand

open GimbalToggleAimCommand

/-! ### Runs -/

/-- A call that reaches the command. -/
inductive AimEvent
  | init (now : UInt32)
  | execute (r : AimReading)
  | finish

/-- What an `execute` of free aim read, and whether it ignored quick turns. -/
abbrev FreeAim : Type := AimReading × Bool

/-- The command, and the `execute`s of free aim, the last one first: those since it was last
scheduled, and those before. -/
structure AimRun where
  command : GimbalToggleAimCommand
  seen : List FreeAim
  earlier : List FreeAim

namespace AimRun

/-- Before the first call. -/
def start (quickTurnOffset : Option ℝ) : AimRun := ⟨.construct quickTurnOffset, [], []⟩

/-- Free aim is about to be scheduled, if it is not. -/
def scheduleFree (run : AimRun) : AimRun :=
  if run.command.isScheduled .gimbalFreeAimCommand then run
  else { run with seen := [], earlier := run.seen ++ run.earlier }

/-- Free aim ignores quick turns in an `execute`. -/
def ignores (run : AimRun) (r : AimReading) : Bool :=
  (run.command.heed r).gimbalFreeAimCommand.ignoreQuickTurns

/-- One call. -/
noncomputable def next (run : AimRun) : AimEvent → AimRun
  | .init now => { run.scheduleFree with command := run.command.init now }
  | .execute r =>
    if r.mouseR then { run with command := (run.command.execute r).1 }
    else
      { run.scheduleFree with
        command := (run.command.execute r).1
        seen := (r, run.ignores r) :: run.scheduleFree.seen }
  | .finish => { run with command := run.command.finish }

/-- An `execute` saw the key down and did not ignore it, and the key has been down since. -/
def HeldSince (key : TurnKey) (seen : List FreeAim) : Prop :=
  ∃ later press before, seen = later ++ press :: before ∧ press.2 = false ∧
    ∀ x ∈ press :: later, x.1.keyPressed key = true

/-- The key has been pressed and held since: an `execute` saw it up, the next one saw it down and
did not ignore it, and it has been down since. -/
def PressedSince (key : TurnKey) (seen : List FreeAim) : Prop :=
  ∃ later press released before, seen = later ++ press :: released :: before ∧ press.2 = false ∧
    released.1.keyPressed key = false ∧ ∀ x ∈ press :: later, x.1.keyPressed key = true

/-- The angle of a quick turn. -/
noncomputable def turn (run : AimRun) : ℝ :=
  run.command.gimbalFreeAimCommand.quickTurnOffset.getD (Real.pi / 2)

/-- The key turns the target in an `execute` of free aim. -/
def turns (run : AimRun) (r : AimReading) (key : TurnKey) : Bool :=
  (run.command.heed r).gimbalFreeAimCommand.turns r key

/-- The target yaw that an `execute` of free aim sets, by the keys that turn it. -/
def Steers (run : AimRun) (e : AimEvent) : Prop :=
  ∀ r, e = .execute r → r.mouseR = false →
    (run.command.execute r).2 =
      some (r.targetYaw + ((if run.turns r .Q then run.turn else 0) -
        if run.turns r .E then run.turn else 0) - r.yawInput)

/-- **The quick turns** of an `execute` of free aim: the keys that turn the target are those that
are released now and whose press was seen, and not ignored, since free aim was last scheduled. -/
def Turns (run : AimRun) (e : AimEvent) : Prop :=
  ∀ r, e = .execute r → r.mouseR = false → ∀ key,
    (run.turns r key = true ↔ r.keyPressed key = false ∧ PressedSince key run.scheduleFree.seen)

/-- A key that is up in an `execute` of free aim, and that was down in those before it since one
that did not ignore it, was down in them since a press that was seen, and not ignored, since free
aim was last scheduled. -/
def Fresh (run : AimRun) (e : AimEvent) : Prop :=
  ∀ r, e = .execute r → r.mouseR = false → ∀ key, r.keyPressed key = false →
    HeldSince key (run.seen ++ run.earlier) → PressedSince key run.scheduleFree.seen

theorem not_heldSince_nil (key : TurnKey) : ¬ HeldSince key [] := by
  rintro ⟨later, press, before, heq, -⟩
  exact List.cons_ne_nil _ _ (List.append_eq_nil_iff.1 heq.symm).2

theorem heldSince_cons {key : TurnKey} {x : FreeAim} {seen : List FreeAim} :
    HeldSince key (x :: seen) ↔
      x.1.keyPressed key = true ∧ (x.2 = false ∨ HeldSince key seen) := by
  constructor
  · rintro ⟨later, press, before, heq, hpress, hdown⟩
    cases later with
    | nil =>
      obtain ⟨rfl, rfl⟩ := List.cons.inj heq
      exact ⟨hdown x List.mem_cons_self, Or.inl hpress⟩
    | cons y later =>
      obtain ⟨rfl, rfl⟩ := List.cons.inj heq
      refine ⟨hdown x (List.mem_cons_of_mem _ List.mem_cons_self),
        Or.inr ⟨later, press, before, rfl, hpress, fun z hz => hdown z ?_⟩⟩
      rcases List.mem_cons.1 hz with rfl | hz
      · exact List.mem_cons_self
      · exact List.mem_cons_of_mem _ (List.mem_cons_of_mem _ hz)
  · rintro ⟨hx, hfirst | ⟨later, press, before, rfl, hpress, hdown⟩⟩
    · refine ⟨[], x, seen, rfl, hfirst, fun z hz => ?_⟩
      rw [List.mem_singleton.1 hz]
      exact hx
    · refine ⟨x :: later, press, before, rfl, hpress, fun z hz => ?_⟩
      rcases List.mem_cons.1 hz with rfl | hz
      · exact hdown z List.mem_cons_self
      · rcases List.mem_cons.1 hz with rfl | hz
        · exact hx
        · exact hdown z (List.mem_cons_of_mem _ hz)

theorem HeldSince.append {key : TurnKey} {seen : List FreeAim} (h : HeldSince key seen)
    (earlier : List FreeAim) : HeldSince key (seen ++ earlier) := by
  obtain ⟨later, press, before, rfl, hpress, hdown⟩ := h
  exact ⟨later, press, before ++ earlier, by simp, hpress, hdown⟩

theorem PressedSince.heldSince {key : TurnKey} {seen : List FreeAim} (h : PressedSince key seen) :
    HeldSince key seen := by
  obtain ⟨later, press, released, before, heq, hpress, -, hdown⟩ := h
  exact ⟨later, press, released :: before, heq, hpress, hdown⟩

theorem not_pressedSince_nil (key : TurnKey) : ¬ PressedSince key [] :=
  fun h => not_heldSince_nil key h.heldSince

/-- What holds in every run: a latch is set if its key has been held since some `execute` of free
aim, in whatever activation. -/
structure Inv (run : AimRun) : Prop where
  single : run.command.comprisedCommandScheduler.Single
  latch : ∀ key, run.command.gimbalFreeAimCommand.latch key = true ↔
    HeldSince key (run.seen ++ run.earlier)

variable {run : AimRun}

theorem inv_start (quickTurnOffset : Option ℝ) : (start quickTurnOffset).Inv where
  single := CommandScheduler.single_construct
  latch key := iff_of_false (by cases key <;> exact Bool.false_ne_true) (not_heldSince_nil key)

@[simp] theorem scheduleFree_append (run : AimRun) :
    run.scheduleFree.seen ++ run.scheduleFree.earlier = run.seen ++ run.earlier := by
  unfold scheduleFree
  split_ifs <;> rfl

theorem Inv.init (h : run.Inv) (now : UInt32) : (run.next (.init now)).Inv where
  single := single_init h.single now
  latch key := by
    show _ ↔ HeldSince key (run.scheduleFree.seen ++ run.scheduleFree.earlier)
    rw [scheduleFree_append]
    exact h.latch key

theorem Inv.finish (h : run.Inv) : (run.next .finish).Inv where
  single := (h.single.single_deschedule _).single_deschedule _
  latch := h.latch

theorem Inv.execute (h : run.Inv) (r : AimReading) : (run.next (.execute r)).Inv := by
  have hsingle := single_execute h.single r
  cases hr : r.mouseR with
  | true =>
    have hnext : run.next (.execute r) = { run with command := (run.command.execute r).1 } :=
      if_pos hr
    rw [hnext]
    refine ⟨hsingle, fun key => ?_⟩
    dsimp only
    rw [execute_cv h.single hr, heed_latch]
    exact h.latch key
  | false =>
    have hnext : run.next (.execute r) =
        { run.scheduleFree with
          command := (run.command.execute r).1
          seen := (r, run.ignores r) :: run.scheduleFree.seen } :=
      if_neg (by rw [hr]; exact Bool.false_ne_true)
    rw [hnext]
    refine ⟨hsingle, fun key => ?_⟩
    dsimp only
    rw [List.cons_append, scheduleFree_append, heldSince_cons, ← h.latch key,
      (execute_free h.single hr).1, ← heed_latch r key]
    have hlatch := QuickTurns.execute_latch (run.command.heed r).gimbalFreeAimCommand.toQuickTurns r
      ((run.command.heed r).gimbalFreeAimCommand.quickTurnOffset.getD (Real.pi / 2)) key
    rw [GimbalFieldRelativeControlCommand.execute]
    dsimp only
    rw [hlatch, Bool.and_eq_true, Bool.or_eq_true, Bool.not_eq_true', ignores]

theorem Inv.next (h : run.Inv) (e : AimEvent) : (run.next e).Inv := by
  cases e with
  | init now => exact h.init now
  | execute r => exact h.execute r
  | finish => exact h.finish

theorem Inv.turns_iff_held (h : run.Inv) (r : AimReading) (key : TurnKey) :
    run.turns r key = true ↔
      r.keyPressed key = false ∧ HeldSince key (run.seen ++ run.earlier) := by
  rw [turns, QuickTurns.turns, heed_latch, Bool.and_eq_true, Bool.not_eq_true', h.latch key,
    and_comm]

/-- **One `execute`** turns the target as it should, unless a key that it finds up has been held
since an `execute` that did not ignore it and was not pressed in sight of free aim. -/
theorem Inv.turns_iff_fresh (h : run.Inv) (e : AimEvent) : run.Turns e ↔ run.Fresh e := by
  refine forall_congr' fun r => forall_congr' fun _ => forall_congr' fun _ =>
    forall_congr' fun key => ?_
  rw [h.turns_iff_held r key]
  constructor
  · intro hturns hup hheld
    exact (hturns.1 ⟨hup, hheld⟩).2
  · intro hfresh
    refine ⟨fun ⟨hup, hheld⟩ => ⟨hup, hfresh hup hheld⟩, fun ⟨hup, hpressed⟩ => ⟨hup, ?_⟩⟩
    rw [← scheduleFree_append]
    exact hpressed.heldSince.append run.scheduleFree.earlier

theorem Inv.steers (h : run.Inv) (e : AimEvent) : run.Steers e := by
  rintro r - hr
  rw [(execute_free h.single hr).2, GimbalFieldRelativeControlCommand.execute]
  dsimp only
  rw [QuickTurns.execute_offset, heed_quickTurnOffset]
  rfl

/-- **When no quick turn is stale**: in every run the keys that turn the target are those that are
pressed and released as they should exactly if no `execute` of free aim finds a key up that has been
held since an `execute` that did not ignore it, and whose press was ignored or not seen since free
aim was last scheduled. -/
theorem turns_iff (quickTurnOffset : Option ℝ) (events : List AimEvent) :
    Each AimRun.next Steers (start quickTurnOffset) events ∧
      (Each AimRun.next Turns (start quickTurnOffset) events ↔
        Each AimRun.next Fresh (start quickTurnOffset) events) := by
  have hstart := inv_start quickTurnOffset
  constructor
  · have hlegal : Each AimRun.next (fun _ _ => True) (start quickTurnOffset) events :=
      each_of_forall fun _ _ => trivial
    exact hlegal.of_inv (fun _ e h _ => ⟨h.steers e, h.next e⟩) hstart
  · exact each_iff_of_step (fun _ e h => h.turns_iff_fresh e) (fun _ e h _ => h.next e) hstart

/-- A reading of a driver who does nothing but hold Q, F, or the right button of the mouse. -/
def heldReading (now : UInt32) (keyQ keyF mouseR : Bool) : AimReading :=
  ⟨now, keyQ, false, keyF, mouseR, 0, 0, none⟩

/-- The driver holds Q, and releases it while the vision aims. -/
def heldEvents : List AimEvent :=
  [.init 0, .execute (heldReading 5 false false false), .execute (heldReading 10 true false false),
    .execute (heldReading 20 false false true)]

/-- The driver presses Q with F and holds it for longer than quick turns are ignored. -/
def ignoredEvents : List AimEvent :=
  [.init 0, .execute (heldReading 5 false false false), .execute (heldReading 10 true true false),
    .execute (heldReading 600 true false false)]

/-- When the driver aims freely again, the target turns by a quarter turn; it also does when the
driver releases the key whose press was ignored. -/
theorem not_turns_held :
    (¬ Each AimRun.next Turns (start none)
        (heldEvents ++ [.execute (heldReading 30 false false false)]) ∧
      ((after AimRun.next (start none) heldEvents).command.execute
        (heldReading 30 false false false)).2 = some (Real.pi / 2)) ∧
    ¬ Each AimRun.next Turns (start none)
        (ignoredEvents ++ [.execute (heldReading 700 false false false)]) ∧
      ((after AimRun.next (start none) ignoredEvents).command.execute
        (heldReading 700 false false false)).2 = some (Real.pi / 2) := by
  have hinv : ∀ events, (after AimRun.next (start none) events).Inv :=
    fun events => inv_after (fun _ e h => h.next e) (inv_start none)
  have hturn : ∀ events r, r.mouseR = false → r.targetYaw = 0 → r.yawInput = 0 →
      (after AimRun.next (start none) events).turns r .Q = true →
      (after AimRun.next (start none) events).turns r .E = false →
      (after AimRun.next (start none) events).turn = Real.pi / 2 →
      ((after AimRun.next (start none) events).command.execute r).2 = some (Real.pi / 2) := by
    intro events r hmouse htarget hinput hQ hE hangle
    rw [(hinv events).steers _ r rfl hmouse, hQ, hE, if_pos rfl, if_neg Bool.false_ne_true, hangle,
      htarget, hinput, sub_zero, sub_zero, zero_add]
  refine ⟨⟨fun h => ?_, hturn _ _ rfl rfl rfl rfl rfl rfl⟩, fun h => ?_,
    hturn _ _ rfl rfl rfl rfl rfl rfl⟩
  · have hpressed := ((each_append.1 h).2.1 _ rfl rfl .Q).1 rfl
    exact not_pressedSince_nil _ hpressed.2
  · obtain ⟨-, later, press, released, before, heq, hpress, hup, -⟩ :=
      ((each_append.1 h).2.1 _ rfl rfl .Q).1 rfl
    have hseen : (after AimRun.next (start none) ignoredEvents).scheduleFree.seen =
        [(heldReading 600 true false false, false), (heldReading 10 true true false, true),
          (heldReading 5 false false false, false)] := rfl
    rw [hseen] at heq
    -- the `execute` before the press saw the key up: it is the first one, and the next one ignores
    rcases later with _ | ⟨x, _ | ⟨y, later⟩⟩
    · obtain ⟨-, htail⟩ := List.cons.inj heq
      obtain ⟨rfl, -⟩ := List.cons.inj htail
      cases hup
    · obtain ⟨-, htail⟩ := List.cons.inj heq
      obtain ⟨rfl, -⟩ := List.cons.inj htail
      cases hpress
    · have hlength := congrArg List.length heq
      simp only [List.length_cons, List.length_nil, List.length_append] at hlength
      omega

end AimRun

end Aimbots.Gimbal
