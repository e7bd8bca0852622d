import Aimbots.BarrelManager.BarrelSwapHeat
import Aimbots.Library.PastTime

/-!
# Homing against a hard stop

`findZeroPosition` drives the carriage against a stop, which it takes to be found when the torque is
high as its timer runs out.  The torque matters at two calls only, the one that starts the timer and
the one at which it runs out; in between a torque that drops is overlooked, and the timer goes on
when the calibration is given up.

A run is any sequence of calls of the subsystem; `barrelManager_after` says that the runs of the
command are among them.  `zeroFound_iff` says what must not have been overlooked; the limits are
right whenever a stop is found.
-/

namespace Aimbots.BarrelManager

open Run PastTime Tap

/-- The timeout of `currentSpikeTimer`. -/
def spikeTimeout : UInt32 := 500

/-- The torque is at least that of a current spike. -/
def SwapMotor.Spikes (k : BarrelSwapConstants) (motor : SwapMotor) : Prop :=
  k.LEAD_SCREW_CURRENT_SPIKE_TORQUE ≤ motor.absTorque

instance (k : BarrelSwapConstants) (motor : SwapMotor) : Decidable (motor.Spikes k) :=
  inferInstanceAs (Decidable (_ ≤ _))

namespace BarrelManagerSubsystem

/-- The limits, for a stop found at a position: the side of the stop is the hard-stop offset from
it, and the other side the distance of the barrels farther on.  `CURRENT` is no side that has a
stop. -/
def LimitsFrom (k : BarrelSwapConstants) (m : BarrelManagerSubsystem) (position : ℚ) :
    BarrelSide → Prop
  | .LEFT => m.limitLeftPosition = position + k.HARD_STOP_OFFSET ∧
      m.limitRightPosition = m.limitLeftPosition + k.BARREL_SWAP_DISTANCE_MM
  | .RIGHT => m.limitRightPosition = position - k.HARD_STOP_OFFSET ∧
      m.limitLeftPosition = m.limitRightPosition - k.BARREL_SWAP_DISTANCE_MM
  | .CURRENT => True

instance (k : BarrelSwapConstants) (m : BarrelManagerSubsystem) (position : ℚ) :
    ∀ side, Decidable (m.LimitsFrom k position side)
  | .LEFT | .RIGHT => inferInstanceAs (Decidable (_ ∧ _))
  | .CURRENT => isTrue trivial

/-- **What a call does.**  It finds the stop if the timer runs out and the torque is high, and sets
the limits.  Otherwise it may start the timer, which only a high torque does, or it has just asked
it. -/
theorem findZeroPosition_cases (k : BarrelSwapConstants) (m : BarrelManagerSubsystem)
    (side : BarrelSide) (now : UInt32) (motor : SwapMotor) :
    let zero := m.findZeroPosition k side now motor
    let asked := m.currentSpikeTimer.execute now
    (zero.1 = true ↔ asked.1 = true ∧ motor.Spikes k) ∧
      (zero.1 = true → zero.2.LimitsFrom k m.currentSwapMotorPosition side) ∧
      (zero.2.currentSpikeTimer = asked.2 ∨
        motor.Spikes k ∧ zero.2.currentSpikeTimer = asked.2.restart now spikeTimeout) := by
  intro zero asked
  by_cases hfound : asked.1 = true ∧ motor.Spikes k
  · have hzero : zero = _ := if_pos hfound
    rw [hzero]
    cases side with
    | LEFT => exact ⟨iff_of_true rfl hfound, fun _ => ⟨rfl, rfl⟩, Or.inl rfl⟩
    | RIGHT => exact ⟨iff_of_true rfl hfound, fun _ => ⟨rfl, rfl⟩, Or.inl rfl⟩
    | CURRENT => exact ⟨iff_of_true rfl hfound, fun _ => trivial, Or.inl rfl⟩
  · have hzero : zero = _ := if_neg hfound
    by_cases hstarts : motor.Spikes k ∧ (asked.2.isExpired now = true ∨ asked.2.isStopped = true)
    · have hstarted : zero = _ := hzero.trans (if_pos hstarts)
      rw [hstarted]
      exact ⟨iff_of_false Bool.false_ne_true hfound, fun h => absurd h Bool.false_ne_true,
        Or.inr ⟨hstarts.1, rfl⟩⟩
    · have hgoesOn : zero = _ := hzero.trans (if_neg hstarts)
      rw [hgoesOn]
      exact ⟨iff_of_false Bool.false_ne_true hfound, fun h => absurd h Bool.false_ne_true,
        Or.inl rfl⟩

end BarrelManagerSubsystem

/-! ### Calls of `findZeroPosition` -/

/-- A call of `findZeroPosition`: the timer before it, and what it reads. -/
structure ZeroCall where
  currentSpikeTimer : Timeout
  now : UInt32
  motor : SwapMotor

namespace ZeroCall

variable (k : BarrelSwapConstants) (x : ZeroCall)

/-- The timer runs and has not run out: whatever the torque is, the call does nothing about it. -/
def Unseen : Prop :=
  x.currentSpikeTimer.isRunning = true ∧ x.currentSpikeTimer.isExpired x.now = false

/-- The torque is not high, and the call does nothing about it, or the timer cannot be trusted. -/
def Overlooks (trusted : Bool) : Prop := ¬ x.motor.Spikes k ∧ (trusted = true → x.Unseen)

/-- The call is at least `spikeTimeout` before `now`. -/
def Before (now : UInt32) : Prop := x.now.toNat + spikeTimeout.toNat ≤ now.toNat

instance : Decidable x.Unseen := inferInstanceAs (Decidable (_ ∧ _))

instance (trusted : Bool) : Decidable (x.Overlooks k trusted) := inferInstanceAs (Decidable (_ ∧ _))

instance (now : UInt32) : Decidable (x.Before now) := inferInstanceAs (Decidable (_ ≤ _))

end ZeroCall

/-- The timer was not started so shortly before the clock overflowed that it runs out at once. -/
def trusted (t : Timeout) : Bool := decide (spikeTimeout ≤ t.expireTime)

/-- **What a timer knows** that runs and has not been asked since it ran out, if it can be trusted:
back to a call that is at least the timeout older than the time at which it runs out, or to the
beginning, calls without a high torque are calls that did nothing about it. -/
def Held (k : BarrelSwapConstants) (t : Timeout) (log : List ZeroCall) : Prop :=
  t.isRunning = true → t.isExecuted = false → trusted t = true →
    WeakSince (fun x => ¬ x.motor.Spikes k → x.Unseen) (fun x => x.Before t.expireTime) log

variable {k : BarrelSwapConstants} {m : BarrelManagerSubsystem} {side : BarrelSide} {now : UInt32}
  {motor : SwapMotor} {log : List ZeroCall}

theorem held_nil (t : Timeout) : Held k t [] := fun _ _ _ => trivial

/-- A call keeps what the timer knows. -/
theorem Held.findZeroPosition (h : Held k m.currentSpikeTimer log) :
    Held k (m.findZeroPosition k side now motor).2.currentSpikeTimer
      (⟨m.currentSpikeTimer, now, motor⟩ :: log) := by
  intro hrunning hexecuted htrusted
  rcases (m.findZeroPosition_cases k side now motor).2.2 with hasks | ⟨hspikes, hstarts⟩
  · rw [hasks] at hrunning hexecuted htrusted ⊢
    obtain ⟨hsame, hexpired⟩ := Timeout.execute_of_not_executed hexecuted
    rw [hsame] at hrunning hexecuted htrusted ⊢
    exact ⟨fun _ => ⟨hrunning, hexpired⟩, Or.inr (h hrunning hexecuted htrusted)⟩
  · rw [hstarts] at htrusted ⊢
    exact ⟨fun hlow => absurd hspikes hlow,
      Or.inl (Timeout.toNat_add_of_le (of_decide_eq_true htrusted)).ge⟩

/-- What the timer knows when it runs out. -/
theorem Held.of_execute {t : Timeout} (h : Held k t log) (hfires : (t.execute now).1 = true) :
    WeakSince (fun x => trusted t = true → ¬ x.motor.Spikes k → x.Unseen) (fun x => x.Before now)
      log := by
  obtain ⟨hexecuted, hexpired⟩ := Timeout.execute_eq_true_iff.1 hfires
  obtain ⟨hrunning, hle⟩ := Timeout.isExpired_iff.1 hexpired
  by_cases htrusted : trusted t = true
  · exact (h hrunning hexecuted htrusted).mono (fun _ hx _ => hx) fun _ hfar =>
      Nat.le_trans hfar (UInt32.le_iff_toNat_le.1 hle)
  · exact weakSince_of_forall fun _ htrusts => absurd htrusts htrusted

/-! ### Runs -/

/-- A call that reaches the subsystem. -/
inductive ManagerCall
  | init (now : UInt32)
  | findZeroPosition (side : BarrelSide) (now : UInt32) (motor : SwapMotor)
  | refresh (motor : SwapMotor)
  | setMotorOutput (output : ℚ)
  | toggleSide

/-- The subsystem, and the calls of `findZeroPosition` of the calibration that goes on, the last one
first. -/
structure ZeroRun where
  barrelManager : BarrelManagerSubsystem
  log : List ZeroCall

namespace ZeroRun

/-- One call.  A calibration ends when a stop is found; any other call that drives the motor or
selects a side interrupts it. -/
def next (k : BarrelSwapConstants) (run : ZeroRun) : ManagerCall → ZeroRun
  | .init now => ⟨run.barrelManager.init now, []⟩
  | .findZeroPosition side now motor =>
    let zero := run.barrelManager.findZeroPosition k side now motor
    ⟨zero.2, if zero.1 then [] else ⟨run.barrelManager.currentSpikeTimer, now, motor⟩ :: run.log⟩
  | .refresh motor => { run with barrelManager := run.barrelManager.refresh k motor }
  | .setMotorOutput output => ⟨run.barrelManager.setMotorOutput output, []⟩
  | .toggleSide => ⟨run.barrelManager.toggleSide, []⟩

variable (k) (run : ZeroRun)

/-- A stop is found only if the torque has been high for `spikeTimeout`, at all calls of the same
calibration back to one that is so long ago; and then the limits are right. -/
def ZeroFound : ManagerCall → Prop
  | .findZeroPosition side now motor =>
    (run.barrelManager.findZeroPosition k side now motor).1 = true →
      Since (fun x => x.motor.Spikes k) (fun x => x.Before now)
        (⟨run.barrelManager.currentSpikeTimer, now, motor⟩ :: run.log) ∧
      (run.barrelManager.findZeroPosition k side now motor).2.LimitsFrom k
        run.barrelManager.currentSwapMotorPosition side
  | .init _ | .refresh _ | .setMotorOutput _ | .toggleSide => True

/-- If the timer runs out while the torque is high: no torque has been overlooked for
`spikeTimeout`, at all calls of the same calibration back to one that is so long ago. -/
def OverlooksNothing : ManagerCall → Prop
  | .findZeroPosition _ now motor =>
    (run.barrelManager.currentSpikeTimer.execute now).1 = true → motor.Spikes k →
      Since (fun x => ¬ x.Overlooks k (trusted run.barrelManager.currentSpikeTimer))
        (fun x => x.Before now) (⟨run.barrelManager.currentSpikeTimer, now, motor⟩ :: run.log)
  | .init _ | .refresh _ | .setMotorOutput _ | .toggleSide => True

instance : ∀ call, Decidable (run.ZeroFound k call)
  | .findZeroPosition .. => inferInstanceAs (Decidable (_ → _))
  | .init _ | .refresh _ | .setMotorOutput _ | .toggleSide => isTrue trivial

instance : ∀ call, Decidable (run.OverlooksNothing k call)
  | .findZeroPosition .. => inferInstanceAs (Decidable (_ → _))
  | .init _ | .refresh _ | .setMotorOutput _ | .toggleSide => isTrue trivial

/-- What the timer knows of the calibration. -/
def Inv : Prop := Held k run.barrelManager.currentSpikeTimer run.log

variable {k} {run}

/-- Every call keeps what the timer knows. -/
theorem Inv.next (h : run.Inv k) (call : ManagerCall) : (run.next k call).Inv k := by
  cases call with
  | init => exact held_nil _
  | findZeroPosition side now motor =>
    show Held k _ (if _ then _ else _)
    split_ifs
    · exact held_nil _
    · exact Held.findZeroPosition h
  | refresh motor =>
    have hsame : (run.barrelManager.refresh k motor).currentSpikeTimer =
        run.barrelManager.currentSpikeTimer := by
      simp only [BarrelManagerSubsystem.refresh]
      split_ifs <;> rfl
    show Held k (run.barrelManager.refresh k motor).currentSpikeTimer run.log
    rw [hsame]
    exact h
  | setMotorOutput => exact held_nil _
  | toggleSide => exact held_nil _

/-- **One call**: the torque has been high, if a stop is found, exactly if none has been
overlooked. -/
theorem Inv.zeroFound_step (h : run.Inv k) {call : ManagerCall} :
    run.ZeroFound k call ↔ run.OverlooksNothing k call := by
  cases call with
  | init => exact Iff.rfl
  | findZeroPosition side now motor =>
    obtain ⟨hiff, hlimits, -⟩ := run.barrelManager.findZeroPosition_cases k side now motor
    constructor
    · intro hfound hfires hspikes
      have hhigh := (hfound (hiff.2 ⟨hfires, hspikes⟩)).1
      exact hhigh.mono fun x hx hover => hover.1 hx
    · intro hseen hfound
      obtain ⟨hfires, hspikes⟩ := hiff.1 hfound
      refine ⟨?_, hlimits hfound⟩
      -- this call finds the torque high, and the timer knows of the calls before it
      have hknown : WeakSince
          (fun x => trusted run.barrelManager.currentSpikeTimer = true →
            ¬ x.motor.Spikes k → x.Unseen)
          (fun x => x.Before now) (⟨run.barrelManager.currentSpikeTimer, now, motor⟩ :: run.log) :=
        ⟨fun _ hlow => absurd hspikes hlow, Or.inr (Held.of_execute h hfires)⟩
      refine ((hseen hfires hspikes).and_weak hknown).mono fun x hx => ?_
      by_contra hlow
      exact hx.1 ⟨hlow, fun htrusted => hx.2 htrusted hlow⟩
  | refresh => exact Iff.rfl
  | setMotorOutput => exact Iff.rfl
  | toggleSide => exact Iff.rfl

/-- **When homing needs a sustained stall**: in every run, from any state of the subsystem, every
stop is found after the torque has been high for `spikeTimeout` of one calibration, with the limits
that belong to it, exactly if at each of them no torque has been overlooked for as long. -/
theorem zeroFound_iff (k : BarrelSwapConstants) (m : BarrelManagerSubsystem)
    (calls : List ManagerCall) :
    Each (ZeroRun.next k) (fun run call => run.ZeroFound k call) ⟨m, []⟩ calls ↔
      Each (ZeroRun.next k) (fun run call => run.OverlooksNothing k call) ⟨m, []⟩ calls :=
  each_iff_of_step (fun _ _ h => Inv.zeroFound_step h) (fun _ call h _ => Inv.next h call)
    (held_nil _)

/-- A call at a time, with the carriage at the left stop. -/
def exampleZero (now : UInt32) (torque : Int16) : ManagerCall :=
  .findZeroPosition .LEFT now (exampleMotor 0 torque)

/-- A torque that stays high for the whole time. -/
example :
    Each (ZeroRun.next exampleConstants)
      (fun run call => run.OverlooksNothing exampleConstants call)
        ⟨exampleStart.swap.barrelManager, []⟩
        [exampleZero 0 1200, exampleZero 250 1100, exampleZero 500 1200] ∧
      (after (ZeroRun.next exampleConstants) ⟨exampleStart.swap.barrelManager, []⟩
        [exampleZero 0 1200, exampleZero 250 1100,
          exampleZero 500 1200]).barrelManager.limitLeftPosition =
          2 := by
  decide +kernel

/-- **Stops found without a stall.**  The torque is high at two moments, and there is none in
between; a calibration is given up, and the first call of the next one finds the stop; and shortly
before the clock overflows there is no waiting. -/
theorem found_without_stall :
    ¬ Each (ZeroRun.next exampleConstants) (fun run call => run.ZeroFound exampleConstants call)
        ⟨exampleStart.swap.barrelManager, []⟩
        [exampleZero 0 1200, exampleZero 2 0, exampleZero 498 0, exampleZero 500 1200] ∧
      ¬ Each (ZeroRun.next exampleConstants) (fun run call => run.ZeroFound exampleConstants call)
        ⟨exampleStart.swap.barrelManager, []⟩
        [exampleZero 0 1200, .setMotorOutput 0, exampleZero 10000 1200] ∧
      ¬ Each (ZeroRun.next exampleConstants) (fun run call => run.ZeroFound exampleConstants call)
        ⟨exampleStart.swap.barrelManager, []⟩
        [exampleZero 4294967290 1200, exampleZero 4294967292 1200] := by
  decide +kernel

end ZeroRun

/-! ### The calls of the command -/

namespace BarrelSwapState

variable (k)

/-- The calls of the subsystem that a call of the command makes, or is. -/
def managerCalls (s : BarrelSwapState) : SwapEvent → List ManagerCall
  | .init now => [.init now]
  | .execute inp =>
    if s.Calibrates inp then [.findZeroPosition .LEFT inp.now inp.motor]
    else .setMotorOutput (s.execute k inp).barrelManager.desiredSwapMotorOutput ::
      ((if s.ReleasesR inp then [.toggleSide] else []) ++
        if s.TogglesByHeat k (.execute inp) then [.toggleSide] else [])
  | .finish => [.setMotorOutput 0]
  | .refresh motor => [.refresh motor]

/-- The calls of the subsystem in a run of the command. -/
def managerRun : BarrelSwapState → List SwapEvent → List ManagerCall
  | _, [] => []
  | s, e :: events => s.managerCalls k e ++ managerRun (s.next k e) events

variable {k} {s : BarrelSwapState} {inp : SwapInputs}

theorem barrelManager_swapByKey (s : BarrelSwapState) (inp : SwapInputs) :
    (s.swapByKey inp).barrelManager =
      if s.ReleasesR inp then s.barrelManager.toggleSide else s.barrelManager := by
  have hcond : ((s.command.wasRPressed || inp.keyR) && !inp.keyR) = true ↔ s.ReleasesR inp := by
    unfold ReleasesR
    cases s.command.wasRPressed <;> cases inp.keyR <;> decide
  simp only [swapByKey, hcond]
  split_ifs <;> rfl

/-- An `execute` that does not calibrate drives the motor and then makes the two toggles. -/
theorem barrelManager_execute (hcal : ¬ s.Calibrates inp) :
    (s.execute k inp).barrelManager =
      let driven := s.barrelManager.setMotorOutput
        (s.execute k inp).barrelManager.desiredSwapMotorOutput
      let released := if s.ReleasesR inp then driven.toggleSide else driven
      if s.TogglesByHeat k (.execute inp) then released.toggleSide else released := by
  obtain ⟨output, hbefore⟩ : ∃ output, (s.beforeHeat k inp).barrelManager =
      if s.ReleasesR inp then (s.barrelManager.setMotorOutput output).toggleSide
      else s.barrelManager.setMotorOutput output := ⟨_, barrelManager_swapByKey _ _⟩
  have hheat : (s.execute k inp).barrelManager =
      if s.TogglesByHeat k (.execute inp) then (s.beforeHeat k inp).barrelManager.toggleSide
      else (s.beforeHeat k inp).barrelManager := by
    rw [(execute_eq_swapByHeat hcal).2, barrelManager_swapByHeat]
    exact if_congr (and_iff_right hcal).symm rfl rfl
  rw [hheat, hbefore]
  -- the toggles leave the output
  split_ifs <;> rfl

/-- **One call of the command** does to the subsystem what the calls that it makes do. -/
theorem barrelManager_next (s : BarrelSwapState) (e : SwapEvent) (log : List ZeroCall) :
    (after (ZeroRun.next k) ⟨s.barrelManager, log⟩ (s.managerCalls k e)).barrelManager =
      (s.next k e).barrelManager := by
  cases e with
  | init => rfl
  | execute inp =>
    rw [managerCalls, next]
    by_cases hcal : s.Calibrates inp
    · rw [if_pos hcal, (execute_of_calibrates hcal).2]
      rfl
    · rw [if_neg hcal, barrelManager_execute hcal]
      by_cases hreleases : s.ReleasesR inp <;> by_cases hheat : s.TogglesByHeat k (.execute inp) <;>
        simp only [hreleases, hheat, if_true, if_false] <;> rfl
  | finish => rfl
  | refresh => rfl

/-- **A run of the command** is a run of the calls that it makes. -/
theorem barrelManager_after (s : BarrelSwapState) (events : List SwapEvent) (log : List ZeroCall) :
    (after (ZeroRun.next k) ⟨s.barrelManager, log⟩ (s.managerRun k events)).barrelManager =
      (after (next k) s events).barrelManager := by
  induction events generalizing s log with
  | nil => rfl
  | cons e events ih =>
    have hhead := barrelManager_next (k := k) s e log
    rw [managerRun, after_append, after_cons, ← ih (s.next k e)
      (after (ZeroRun.next k) ⟨s.barrelManager, log⟩ (s.managerCalls k e)).log, ← hhead]

end BarrelSwapState

end Aimbots.BarrelManager
