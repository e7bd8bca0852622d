import Aimbots.Chassis.ChassisAutoNavCommand

/-!
# When `ChassisAutoNavCommand` settles

The timers of the controllers run without a timeout, so a question to a controller answers that it
has settled exactly if its error was within the threshold at the question before and still is.  An
execute asks often enough that, after one question by somebody else, its last answer is whether the
errors are within the threshold (`execute_polled`).
-/

namespace Aimbots.Chassis

open Utils
open Pathfinding (Point)

/-- The clock does not go back during the questions of an execute. -/
def NavReading.Ordered (clock : UInt32) (r : NavReading) : Prop :=
  clock ≤ r.first.x ∧ r.first.x ≤ r.first.y ∧ r.first.y ≤ r.second.x ∧ r.second.x ≤ r.second.y ∧
    r.second.y ≤ r.third.x ∧ r.third.x ≤ r.third.y

instance (clock : UInt32) (r : NavReading) : Decidable (r.Ordered clock) := by
  unfold NavReading.Ordered; infer_instance

theorem NavReading.Ordered.le {clock : UInt32} {r : NavReading} (h : r.Ordered clock) :
    clock ≤ r.third.y := by
  obtain ⟨h₁, h₂, h₃, h₄, h₅, h₆⟩ := h
  have hsecond : clock ≤ r.second.x := UInt32.le_trans h₁ (UInt32.le_trans h₂ h₃)
  exact UInt32.le_trans hsecond (UInt32.le_trans h₄ (UInt32.le_trans h₅ h₆))

namespace ChassisAutoNavCommand

/-- The timer of the first controller runs. -/
def XRunning (c : ChassisAutoNavCommand) : Prop :=
  c.xController.settledUtil.errorTimer.isRunning = true

/-- The timer of the second controller runs. -/
def YRunning (c : ChassisAutoNavCommand) : Prop :=
  c.yController.settledUtil.errorTimer.isRunning = true

/-- The error of the first controller is within the threshold. -/
def XNear (c : ChassisAutoNavCommand) : Prop := |c.xController.error| < c.linearSettledThreshold

/-- The error of the second controller is within the threshold. -/
def YNear (c : ChassisAutoNavCommand) : Prop := |c.yController.error| < c.linearSettledThreshold

/-- Both timers run. -/
def Running (c : ChassisAutoNavCommand) : Prop := c.XRunning ∧ c.YRunning

/-- Both errors are within the threshold and both timers run: the controllers have settled. -/
def Hot (c : ChassisAutoNavCommand) : Prop := c.Near ∧ c.Running

/-- The timers are as some questions about the errors leave them: each runs exactly if its error is
within the threshold, but the second is not known if the first error is not. -/
def Asked (c : ChassisAutoNavCommand) : Prop :=
  (c.XRunning ↔ c.XNear) ∧ (c.XNear → (c.YRunning ↔ c.YNear))

/-- Both timers have run out by `clock`, if they run. -/
def Clocked (c : ChassisAutoNavCommand) (clock : UInt32) : Prop :=
  c.xController.settledUtil.RunOut clock ∧ c.yController.settledUtil.RunOut clock

instance (c : ChassisAutoNavCommand) : Decidable c.XRunning := by unfold XRunning; infer_instance

instance (c : ChassisAutoNavCommand) : Decidable c.YRunning := by unfold YRunning; infer_instance

instance (c : ChassisAutoNavCommand) : Decidable c.XNear := by unfold XNear; infer_instance

instance (c : ChassisAutoNavCommand) : Decidable c.YNear := by unfold YNear; infer_instance

instance (c : ChassisAutoNavCommand) : Decidable c.Near := by unfold Near; infer_instance

instance (c : ChassisAutoNavCommand) : Decidable c.Hot := by
  unfold Hot Running; infer_instance

variable {c : ChassisAutoNavCommand} {clock : UInt32} {t : PollTime}

theorem Clocked.mono {now : UInt32} (h : c.Clocked clock) (hnow : clock ≤ now) : c.Clocked now :=
  ⟨h.1.mono hnow, h.2.mono hnow⟩

/-- **What a question does to the timers.**  The first runs if its error is within the threshold;
the second is asked if the first has run before, and then runs if its error is within the
threshold. -/
theorem isSettled_timers (h : c.Clocked clock) (hx : clock ≤ t.x) (hy : t.x ≤ t.y) :
    (c.isSettled t).1.Clocked t.y ∧
      ((c.isSettled t).1.XRunning ↔ c.XNear) ∧
      ((c.isSettled t).1.YRunning ↔ if c.XNear ∧ c.XRunning then c.YNear else c.YRunning) ∧
      ((c.isSettled t).2 = true ↔ c.Hot) := by
  obtain ⟨hxclock, hxrunning, hxsettled⟩ := @SettledUtil.isSettled_zero _ _ c.xController.error
    c.linearSettledThreshold _ h.1 hx
  obtain ⟨hyclock, hyrunning, hysettled⟩ := @SettledUtil.isSettled_zero _ _ c.yController.error
    c.linearSettledThreshold _ h.2 (UInt32.le_trans hx hy)
  cases hx' : (c.xController.isSettled t.x c.linearSettledThreshold (some 0)).2 with
  | false =>
    have hnot : ¬ (c.XNear ∧ c.XRunning) := fun hx'' => by
      rw [show (c.xController.isSettled _ _ _).2 = true from hxsettled.2 hx''] at hx'
      cases hx'
    rw [c.isSettled_of_false hx', if_neg hnot]
    refine ⟨⟨hxclock.mono hy, h.2.mono (UInt32.le_trans hx hy)⟩, ?_, Iff.rfl, ?_⟩
    · exact (Bool.eq_iff_iff.1 hxrunning).trans decide_eq_true_iff
    · exact iff_of_false Bool.false_ne_true fun hhot => hnot ⟨hhot.1.1, hhot.2.1⟩
  | true =>
    have hboth : c.XNear ∧ c.XRunning := hxsettled.1 hx'
    rw [c.isSettled_of_true hx', if_pos hboth]
    refine ⟨⟨hxclock.mono hy, hyclock⟩, ?_, ?_, hysettled.trans ?_⟩
    · exact (Bool.eq_iff_iff.1 hxrunning).trans decide_eq_true_iff
    · exact (Bool.eq_iff_iff.1 hyrunning).trans decide_eq_true_iff
    · exact ⟨fun hy' => ⟨⟨hboth.1, hy'.1⟩, hboth.2, hy'.2⟩, fun hhot => ⟨hhot.1.2, hhot.2.2⟩⟩

theorem Asked.running_iff (h : c.Asked) : c.Running ↔ c.Near := by
  constructor
  · intro hrunning
    have hx := h.1.1 hrunning.1
    exact ⟨hx, (h.2 hx).1 hrunning.2⟩
  · exact fun hnear => ⟨h.1.2 hnear.1, (h.2 hnear.1).2 hnear.2⟩

theorem Asked.hot_iff (h : c.Asked) : c.Hot ↔ c.Near := by
  rw [Hot, h.running_iff, and_self]

/-- Taking a waypoint leaves the controllers alone. -/
theorem popPath_controllers (c : ChassisAutoNavCommand) :
    c.popPath.xController = c.xController ∧ c.popPath.yController = c.yController := by
  cases hpath : c.path with
  | nil => rw [popPath_nil c hpath]; exact ⟨rfl, rfl⟩
  | cons pt rest => rw [popPath_cons c hpath]; exact ⟨rfl, rfl⟩

theorem popPath_running (c : ChassisAutoNavCommand) : c.popPath.Running ↔ c.Running := by
  rw [Running, XRunning, YRunning, c.popPath_controllers.1, c.popPath_controllers.2]
  rfl

theorem popPath_clocked (c : ChassisAutoNavCommand) :
    c.popPath.Clocked clock ↔ c.Clocked clock := by
  rw [Clocked, c.popPath_controllers.1, c.popPath_controllers.2]
  rfl

/-- Loading a path leaves the controllers alone. -/
theorem loadPath_controllers (c : ChassisAutoNavCommand) (path : List (Point ℚ)) :
    (c.loadPath path).xController = c.xController ∧
      (c.loadPath path).yController = c.yController :=
  popPath_controllers { c with path }

theorem loadPath_clocked (c : ChassisAutoNavCommand) (path : List (Point ℚ)) :
    (c.loadPath path).Clocked clock ↔ c.Clocked clock :=
  popPath_clocked { c with path }

theorem loadPath_xRunning (c : ChassisAutoNavCommand) (path : List (Point ℚ)) :
    (c.loadPath path).XRunning ↔ c.XRunning := by
  rw [XRunning, (c.loadPath_controllers path).1]
  rfl

theorem loadPath_xNear (c : ChassisAutoNavCommand) (path : List (Point ℚ)) :
    (c.loadPath path).XNear ↔ c.XNear := by
  rw [XNear, (c.loadPath_controllers path).1, c.loadPath_threshold path]
  rfl

section Ask

variable (h : c.Clocked clock) (hx : clock ≤ t.x) (hy : t.x ≤ t.y)
include h hx hy

/-- A second question leaves the timers as the errors say. -/
theorem asked_of_polled (hpolled : c.XRunning ↔ c.XNear) : (c.isSettled t).1.Asked := by
  obtain ⟨-, hxrunning, hyrunning, -⟩ := isSettled_timers h hx hy
  have hsame := c.isSettled_same t
  have hxnear : (c.isSettled t).1.XNear ↔ c.XNear := by
    rw [XNear, XNear, hsame.xError, hsame.threshold]
  have hynear : (c.isSettled t).1.YNear ↔ c.YNear := by
    rw [YNear, YNear, hsame.yError, hsame.threshold]
  refine ⟨hxrunning.trans hxnear.symm, fun hnear => ?_⟩
  have hboth : c.XNear ∧ c.XRunning := ⟨hxnear.1 hnear, hpolled.2 (hxnear.1 hnear)⟩
  rw [if_pos hboth] at hyrunning
  exact hyrunning.trans hynear.symm

/-- Once the timers are as the errors say, a question is answered by the errors. -/
theorem Asked.isSettled_iff (hasked : c.Asked) : (c.isSettled t).2 = true ↔ c.Near :=
  (isSettled_timers h hx hy).2.2.2.trans hasked.hot_iff

/-- The question before the last, with the path at its end or not. -/
theorem Asked.arrived (hasked : c.Asked) :
    (c.arrived t).1.Clocked t.y ∧ (c.arrived t).1.Asked ∧
      ((c.arrived t).2 = true ↔ c.path = [] ∧ c.Near) := by
  refine ⟨?_, ?_, (arrived_iff c).trans (and_congr_right' (hasked.isSettled_iff h hx hy))⟩ <;>
    unfold ChassisAutoNavCommand.arrived <;> split_ifs
  · exact (isSettled_timers h hx hy).1
  · exact h.mono (UInt32.le_trans hx hy)
  · exact asked_of_polled h hx hy hasked.1
  · exact hasked

/-- The last question: with the errors within the threshold the next waypoint is taken, and the
timers run afterwards exactly if they are. -/
theorem Asked.advance (hasked : c.Asked) :
    (c.advance t).Clocked t.y ∧ ((c.advance t).Running ↔ c.Near) ∧
      (c.Near → ∀ pt rest, c.path = pt :: rest →
        (c.advance t).path = rest ∧ (c.advance t).target = pt) ∧
      (¬ c.Near → (c.advance t).path = c.path ∧ (c.advance t).target = c.target) := by
  have hsettled := hasked.isSettled_iff h hx hy
  have hclock := (isSettled_timers h hx hy).1
  have hsame := c.isSettled_same t
  have hrunning : (c.isSettled t).1.Running ↔ c.Near :=
    (asked_of_polled h hx hy hasked.1).running_iff.trans (c.isSettled_same t).near_iff
  by_cases hnear : c.Near
  · rw [ChassisAutoNavCommand.advance, if_pos (hsettled.2 hnear)]
    refine ⟨(popPath_clocked _).2 hclock, (popPath_running _).trans hrunning, ?_, absurd hnear⟩
    intro _ pt rest hpath
    rw [popPath_cons _ (hsame.path.trans hpath)]
    exact ⟨rfl, rfl⟩
  · rw [ChassisAutoNavCommand.advance, if_neg (mt hsettled.1 hnear)]
    exact ⟨hclock, hrunning, fun h' => absurd h' hnear, fun _ => ⟨hsame.path, hsame.target⟩⟩

end Ask

/-- **An execute after a question by somebody else** is decided by the errors.  If they are within
the threshold, it stops at the end of the path and takes the next waypoint otherwise; if not, it
drives on.  The timers both run afterwards exactly in the first case. -/
theorem execute_polled {r : NavReading} (h : c.Clocked clock) (hr : r.Ordered clock)
    (hpolled : c.XRunning ↔ c.XNear) :
    (c.execute r).1.Clocked r.third.y ∧ ((c.execute r).1.Running ↔ c.Near) ∧
      (c.Near → c.path = [] → SameNav c (c.execute r).1 ∧ (c.execute r).2 = none) ∧
      (c.Near → ∀ pt rest, c.path = pt :: rest →
        (c.execute r).1.path = rest ∧ (c.execute r).1.target = pt) ∧
      (¬ c.Near → (c.execute r).1.path = c.path ∧ (c.execute r).1.target = c.target) ∧
      (¬ (c.Near ∧ c.path = []) →
        (c.execute r).1.ErrorsFrom r.location ∧ (c.execute r).2 ≠ none) := by
  obtain ⟨h₁, h₂, h₃, h₄, h₅, h₆⟩ := hr
  have hsame₁ := c.isSettled_same r.first
  obtain ⟨hclock₁, -⟩ := isSettled_timers h h₁ h₂
  have hasked₁ := asked_of_polled h h₁ h₂ hpolled
  obtain ⟨hclock₂, hasked₂, hstop⟩ := hasked₁.arrived hclock₁ h₃ h₄
  have hsame := hsame₁.trans ((c.isSettled r.first).1.arrived_same r.second)
  rw [hsame₁.path, hsame₁.near_iff] at hstop
  by_cases hend : c.path = [] ∧ c.Near
  · rw [execute, if_pos (hstop.2 hend)]
    refine ⟨hclock₂.mono (UInt32.le_trans h₅ h₆), hasked₂.running_iff.trans hsame.near_iff,
      fun _ _ => ⟨hsame, rfl⟩, ?_, fun h' => absurd hend.2 h', fun h' => absurd hend.symm h'⟩
    intro _ pt rest hpath
    rw [hend.1] at hpath
    cases hpath
  · obtain ⟨hclock₃, hrunning, hpop, hkeep⟩ := hasked₂.advance hclock₂ h₅ h₆
    rw [hsame.near_iff, hsame.path] at hpop
    rw [hsame.near_iff] at hrunning
    rw [hsame.near_iff, hsame.path, hsame.target] at hkeep
    rw [execute, if_neg (mt hstop.1 hend)]
    exact ⟨hclock₃, hrunning, fun hnear hpath => absurd ⟨hpath, hnear⟩ hend, hpop, hkeep,
      fun _ => ⟨drive_errorsFrom _ r, Option.some_ne_none _⟩⟩

/-- `location` is within the threshold of a waypoint. -/
def Close (c : ChassisAutoNavCommand) (pt location : Point ℚ) : Prop :=
  |pt.1 - location.1| < c.linearSettledThreshold ∧ |pt.2 - location.2| < c.linearSettledThreshold

instance (c : ChassisAutoNavCommand) (pt location : Point ℚ) : Decidable (c.Close pt location) := by
  unfold Close; infer_instance

/-- **How an execute leaves the controllers settled with waypoints to visit**: it takes a waypoint
that is not the last as the target while the robot is within the threshold of it. -/
theorem hot_execute_iff {r : NavReading} (h : c.Clocked clock) (hr : r.Ordered clock)
    (hpolled : c.XRunning ↔ c.XNear) :
    (c.execute r).1.Hot ∧ (c.execute r).1.path ≠ [] ↔
      c.Near ∧ ∃ pt pt' rest, c.path = pt :: pt' :: rest ∧ c.Close pt r.location := by
  obtain ⟨-, hrunning, hstop, hpop, -, hdrive⟩ := execute_polled h hr hpolled
  have hth : (c.execute r).1.linearSettledThreshold = c.linearSettledThreshold :=
    (c.next_cases (.execute r)).1
  rw [Hot, hrunning]
  constructor
  · rintro ⟨⟨hclose, hnear⟩, hleft⟩
    refine ⟨hnear, ?_⟩
    cases hpath : c.path with
    | nil => exact absurd ((hstop hnear hpath).1.path.trans hpath) hleft
    | cons pt rest =>
      obtain ⟨hrest, htarget⟩ := hpop hnear pt rest hpath
      obtain ⟨pt', rest', rfl⟩ := List.exists_cons_of_ne_nil (hrest ▸ hleft)
      have herr := (hdrive (by simp [hpath])).1
      rw [Near, herr.1, herr.2, htarget, hth] at hclose
      exact ⟨pt, pt', rest', rfl, hclose⟩
  · rintro ⟨hnear, pt, pt', rest, hpath, hclose⟩
    obtain ⟨hrest, htarget⟩ := hpop hnear pt _ hpath
    have herr := (hdrive (by simp [hpath])).1
    refine ⟨⟨?_, hnear⟩, by rw [hrest]; exact List.cons_ne_nil _ _⟩
    rw [Near, herr.1, herr.2, htarget, hth]
    exact hclose

end ChassisAutoNavCommand

end Aimbots.Chassis
