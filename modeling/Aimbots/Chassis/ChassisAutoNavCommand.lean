import Aimbots.Pathfinding.VizGraph
import Aimbots.Utils.SmoothPidWrap

/-!
# `chassis_auto_nav_command.cpp`

The command drives the chassis along a path.  Its navigator has one waypoint as the target and the
path holds the waypoints after it.  When both controllers have settled, the first of these becomes
the target, and when none is left the chassis stops.

The controllers settle on the errors of the execute before, so what they know may be about an older
target; `follows` says what is right all the same.  `execute_cases` is what one execute can do.
-/

namespace Aimbots.Chassis

open Utils
open Pathfinding (Point)

/-- The members of `AutoNavigatorHolonomic` that the chassis is driven by. -/
structure AutoNavigatorHolonomic where
  targetLocation : Point ℚ
  worldXError : ℚ
  worldYError : ℚ
deriving DecidableEq, Repr

namespace AutoNavigatorHolonomic

/-- `setTargetLocation`. -/
def setTargetLocation (a : AutoNavigatorHolonomic) (targetLocation : Point ℚ) :
    AutoNavigatorHolonomic :=
  { a with targetLocation }

/-- `update`. -/
def update (a : AutoNavigatorHolonomic) (currentWorldLocation : Point ℚ) :
    AutoNavigatorHolonomic :=
  { a with
    worldXError := a.targetLocation.1 - currentWorldLocation.1
    worldYError := a.targetLocation.2 - currentWorldLocation.2 }

end AutoNavigatorHolonomic

/-- `defaultLinearConfig`. -/
def defaultLinearConfig : SmoothPidConfig where
  kp := 2
  maxICumulative := 1 / 10
  maxOutput := 1
  tQDerivativeKalman := 1
  tRDerivativeKalman := 1
  tQProportionalKalman := 1
  tRProportionalKalman := 1

/-- The clock as the two controllers read it when they are asked whether they have settled. -/
structure PollTime where
  x : UInt32
  y : UInt32
deriving DecidableEq, Repr

/-- What an `execute` reads: the clock at each question to the controllers and when they run, and
where the robot is and how fast. -/
structure NavReading where
  first : PollTime
  second : PollTime
  third : PollTime
  run : PollTime
  location : Point ℚ
  velocity : Point ℚ
deriving DecidableEq, Repr

/-- The members of `ChassisAutoNavCommand` that change, and the threshold. -/
structure ChassisAutoNavCommand where
  path : List (Point ℚ)
  autoNavigator : AutoNavigatorHolonomic
  xController : SmoothPID
  yController : SmoothPID
  linearSettledThreshold : ℚ
deriving DecidableEq, Repr

namespace ChassisAutoNavCommand

/-- The constructor; the navigator, whose members are not initialised, and what the controllers are
constructed with are arguments. -/
def construct (autoNavigator : AutoNavigatorHolonomic) (xController yController : SmoothPIDWrapper)
    (linearSettledThreshold : ℚ) : ChassisAutoNavCommand where
  path := []
  autoNavigator
  xController := .construct xController
  yController := .construct yController
  linearSettledThreshold

/-- `isSettled`: the second controller is asked only if the first has settled. -/
def isSettled (c : ChassisAutoNavCommand) (t : PollTime) : ChassisAutoNavCommand × Bool :=
  let x := c.xController.isSettled t.x c.linearSettledThreshold (some 0)
  if x.2 then
    let y := c.yController.isSettled t.y c.linearSettledThreshold (some 0)
    ({ c with xController := x.1, yController := y.1 }, y.2)
  else ({ c with xController := x.1 }, false)

/-- `pop_path`. -/
def popPath (c : ChassisAutoNavCommand) : ChassisAutoNavCommand :=
  match c.path with
  | [] => c
  | pt :: rest => { c with path := rest, autoNavigator := c.autoNavigator.setTargetLocation pt }

/-- `load_path`. -/
def loadPath (c : ChassisAutoNavCommand) (path : List (Point ℚ)) : ChassisAutoNavCommand :=
  popPath { c with path }

/-- The navigator and the controllers at the end of an `execute`, with the input in the world's
frame that the controllers ask for. -/
def drive (c : ChassisAutoNavCommand) (r : NavReading) : ChassisAutoNavCommand × Option (ℚ × ℚ) :=
  let autoNavigator := c.autoNavigator.update r.location
  let xController := c.xController.runController r.run.x autoNavigator.worldXError r.velocity.1
  let yController := c.yController.runController r.run.y autoNavigator.worldYError r.velocity.2
  ({ c with autoNavigator, xController, yController },
    some (xController.getOutput, yController.getOutput))

/-- The question of `execute` whether the end of the path is reached,
`path.empty() && isSettled()`. -/
def arrived (c : ChassisAutoNavCommand) (t : PollTime) : ChassisAutoNavCommand × Bool :=
  if c.path.isEmpty then c.isSettled t else (c, false)

/-- The rest of an `execute` that does not stop: the next waypoint if the controllers have
settled. -/
def advance (c : ChassisAutoNavCommand) (t : PollTime) : ChassisAutoNavCommand :=
  let settled := c.isSettled t
  if settled.2 then settled.1.popPath else settled.1

/-- `execute`.  There is no input if the chassis stops. -/
def execute (c : ChassisAutoNavCommand) (r : NavReading) :
    ChassisAutoNavCommand × Option (ℚ × ℚ) :=
  let c := (c.isSettled r.first).1
  let stop := c.arrived r.second
  if stop.2 then (stop.1, none) else (stop.1.advance r.third).drive r

/-- The target of the navigator. -/
def target (c : ChassisAutoNavCommand) : Point ℚ := c.autoNavigator.targetLocation

/-- The last errors are within the threshold. -/
def Near (c : ChassisAutoNavCommand) : Prop :=
  |c.xController.error| < c.linearSettledThreshold ∧
    |c.yController.error| < c.linearSettledThreshold

/-- The errors of both controllers are those of the target seen from `location`. -/
def ErrorsFrom (c : ChassisAutoNavCommand) (location : Point ℚ) : Prop :=
  c.xController.error = c.target.1 - location.1 ∧ c.yController.error = c.target.2 - location.2

/-- The commands agree but for the timers of their controllers. -/
structure SameNav (c c' : ChassisAutoNavCommand) : Prop where
  path : c'.path = c.path
  autoNavigator : c'.autoNavigator = c.autoNavigator
  xError : c'.xController.error = c.xController.error
  yError : c'.yController.error = c.yController.error
  threshold : c'.linearSettledThreshold = c.linearSettledThreshold

namespace SameNav

variable {c c' c'' : ChassisAutoNavCommand}

theorem refl (c : ChassisAutoNavCommand) : SameNav c c := ⟨rfl, rfl, rfl, rfl, rfl⟩

theorem trans (h : SameNav c c') (h' : SameNav c' c'') : SameNav c c'' :=
  ⟨h'.path.trans h.path, h'.autoNavigator.trans h.autoNavigator, h'.xError.trans h.xError,
    h'.yError.trans h.yError, h'.threshold.trans h.threshold⟩

theorem target (h : SameNav c c') : c'.target = c.target :=
  congrArg AutoNavigatorHolonomic.targetLocation h.autoNavigator

theorem near_iff (h : SameNav c c') : c'.Near ↔ c.Near := by
  rw [Near, Near, h.xError, h.yError, h.threshold]

theorem errorsFrom (h : SameNav c c') {location : Point ℚ} (herr : c.ErrorsFrom location) :
    c'.ErrorsFrom location := by
  rwa [ErrorsFrom, h.xError, h.yError, h.target]

end SameNav

variable (c : ChassisAutoNavCommand)

theorem isSettled_of_true {t : PollTime}
    (h : (c.xController.isSettled t.x c.linearSettledThreshold (some 0)).2 = true) :
    c.isSettled t =
      ({ c with
          xController := (c.xController.isSettled t.x c.linearSettledThreshold (some 0)).1
          yController := (c.yController.isSettled t.y c.linearSettledThreshold (some 0)).1 },
        (c.yController.isSettled t.y c.linearSettledThreshold (some 0)).2) := by
  simp only [isSettled, h, ↓reduceIte]

theorem isSettled_of_false {t : PollTime}
    (h : (c.xController.isSettled t.x c.linearSettledThreshold (some 0)).2 = false) :
    c.isSettled t =
      ({ c with
          xController := (c.xController.isSettled t.x c.linearSettledThreshold (some 0)).1 },
        false) := by
  simp only [isSettled, h, Bool.false_eq_true, ↓reduceIte]

/-- A question to the controllers changes their timers only. -/
theorem isSettled_same (t : PollTime) : SameNav c (c.isSettled t).1 := by
  cases hx : (c.xController.isSettled t.x c.linearSettledThreshold (some 0)).2 with
  | false =>
    rw [c.isSettled_of_false hx]
    exact ⟨rfl, rfl, rfl, rfl, rfl⟩
  | true =>
    rw [c.isSettled_of_true hx]
    exact ⟨rfl, rfl, rfl, rfl, rfl⟩

/-- Controllers that have settled have errors within the threshold. -/
theorem near_of_isSettled {t : PollTime} (h : (c.isSettled t).2 = true) : c.Near := by
  cases hx : (c.xController.isSettled t.x c.linearSettledThreshold (some 0)).2 with
  | false =>
    rw [c.isSettled_of_false hx] at h
    cases h
  | true =>
    rw [c.isSettled_of_true hx] at h
    exact ⟨SettledUtil.abs_lt_of_isSettled hx, SettledUtil.abs_lt_of_isSettled h⟩

theorem popPath_nil (h : c.path = []) : c.popPath = c := by
  rw [popPath, h]

theorem popPath_cons {pt : Point ℚ} {rest : List (Point ℚ)} (h : c.path = pt :: rest) :
    c.popPath =
      { c with path := rest, autoNavigator := c.autoNavigator.setTargetLocation pt } := by
  rw [popPath, h]

theorem arrived_same (t : PollTime) : SameNav c (c.arrived t).1 := by
  unfold arrived
  split_ifs
  · exact c.isSettled_same t
  · exact .refl c

theorem arrived_iff {t : PollTime} :
    (c.arrived t).2 = true ↔ c.path = [] ∧ (c.isSettled t).2 = true := by
  cases hpath : c.path <;> simp [arrived, hpath]

/-- An `advance` takes the next waypoint if the controllers have settled and there is one. -/
theorem advance_cases (t : PollTime) :
    (c.advance t).linearSettledThreshold = c.linearSettledThreshold ∧
      ((c.advance t).path = c.path ∧ (c.advance t).target = c.target ∨
        c.Near ∧ ∃ pt, c.path = pt :: (c.advance t).path ∧ (c.advance t).target = pt) := by
  have hsame := c.isSettled_same t
  cases hsettled : (c.isSettled t).2 with
  | false =>
    rw [advance, hsettled, if_neg Bool.false_ne_true]
    exact ⟨hsame.threshold, Or.inl ⟨hsame.path, hsame.target⟩⟩
  | true =>
    rw [advance, hsettled, if_pos rfl]
    cases hpath : c.path with
    | nil =>
      rw [popPath_nil _ (hsame.path.trans hpath)]
      exact ⟨hsame.threshold, Or.inl ⟨hsame.path.trans hpath, hsame.target⟩⟩
    | cons pt rest =>
      rw [popPath_cons _ (hsame.path.trans hpath)]
      exact ⟨hsame.threshold, Or.inr ⟨c.near_of_isSettled hsettled, pt, rfl, rfl⟩⟩

/-- Driving leaves the path and the target alone and takes the errors anew. -/
theorem drive_errorsFrom (r : NavReading) : (c.drive r).1.ErrorsFrom r.location := ⟨rfl, rfl⟩

/-- **What an execute does**: it stops, with no waypoint left and the errors within the threshold;
or it drives towards the same target; or, with the errors within the threshold, it takes the next
waypoint as the target and drives towards that. -/
theorem execute_cases (r : NavReading) :
    ((c.execute r).2 = none ∧ c.path = [] ∧ c.Near ∧ SameNav c (c.execute r).1) ∨
      (((c.execute r).2 ≠ none ∧ (c.execute r).1.ErrorsFrom r.location ∧
          (c.execute r).1.linearSettledThreshold = c.linearSettledThreshold) ∧
        ((c.execute r).1.path = c.path ∧ (c.execute r).1.target = c.target ∨
          c.Near ∧ ∃ pt, c.path = pt :: (c.execute r).1.path ∧ (c.execute r).1.target = pt)) := by
  have h₁ := c.isSettled_same r.first
  have h₂ := (c.isSettled r.first).1.arrived_same r.second
  have h := h₁.trans h₂
  cases hstop : ((c.isSettled r.first).1.arrived r.second).2 with
  | true =>
    obtain ⟨hpath, hsettled⟩ := (arrived_iff _).1 hstop
    rw [execute, if_pos hstop]
    exact Or.inl ⟨rfl, h₁.path ▸ hpath, h₁.near_iff.1 (near_of_isSettled _ hsettled), h⟩
  | false =>
    obtain ⟨hth, hadvance⟩ := advance_cases ((c.isSettled r.first).1.arrived r.second).1 r.third
    rw [execute, if_neg (by rw [hstop]; exact Bool.false_ne_true)]
    refine Or.inr ⟨⟨Option.some_ne_none _, drive_errorsFrom _ r, hth.trans h.threshold⟩, ?_⟩
    rcases hadvance with ⟨hpath, htarget⟩ | ⟨hnear, pt, hpath, htarget⟩
    · exact Or.inl ⟨hpath.trans h.path, htarget.trans h.target⟩
    · exact Or.inr ⟨h.near_iff.1 hnear, pt, h.path ▸ hpath, htarget⟩

/-! ### Following a path -/

/-- What happens to the command between two paths: it executes, or it is asked whether it has
settled. -/
inductive NavEvent
  | execute (r : NavReading)
  | isSettled (t : PollTime)
deriving DecidableEq, Repr

/-- The command after an event. -/
def next (c : ChassisAutoNavCommand) : NavEvent → ChassisAutoNavCommand
  | .execute r => (c.execute r).1
  | .isSettled t => (c.isSettled t).1

/-- The command after some events. -/
def after (c : ChassisAutoNavCommand) (events : List NavEvent) : ChassisAutoNavCommand :=
  events.foldl next c

theorem after_append (before events : List NavEvent) :
    c.after (before ++ events) = (c.after before).after events := List.foldl_append

theorem after_concat (before : List NavEvent) (e : NavEvent) :
    c.after (before ++ [e]) = (c.after before).next e := c.after_append before [e]

/-- What is expected of the events after `path` has been loaded.  The target goes through the path
in order and skips nothing; a waypoint other than the first stops being the target only in an
execute, when the errors to it in the execute before were within the threshold; and an execute stops
only with no waypoint left and the last errors within the threshold. -/
structure Follows (c : ChassisAutoNavCommand) (path : List (Point ℚ)) (events : List NavEvent) :
    Prop where
  inOrder : path ≠ [] → ∀ before rest, events = before ++ rest →
    ∃ i, path[i]? = some ((c.loadPath path).after before).target ∧
      ((c.loadPath path).after before).path = path.drop (i + 1)
  skipsNone : ∀ before e rest, events = before ++ e :: rest →
    ((c.loadPath path).after (before ++ [e])).path = ((c.loadPath path).after before).path ∧
        ((c.loadPath path).after (before ++ [e])).target = ((c.loadPath path).after before).target ∨
      ∃ pt, ((c.loadPath path).after before).path =
          pt :: ((c.loadPath path).after (before ++ [e])).path ∧
        ((c.loadPath path).after (before ++ [e])).target = pt
  reached : ∀ before e rest, events = before ++ e :: rest →
    ((c.loadPath path).after (before ++ [e])).path ≠ ((c.loadPath path).after before).path →
    ((c.loadPath path).after before).path ≠ path.tail →
    (∃ r, e = .execute r) ∧ ∃ earlier r polls, before = earlier ++ .execute r :: polls ∧
      (∀ p ∈ polls, ∃ t, p = .isSettled t) ∧
      ((c.loadPath path).after (earlier ++ [.execute r])).target =
        ((c.loadPath path).after before).target ∧
      ((c.loadPath path).after (earlier ++ [.execute r])).ErrorsFrom r.location ∧
      |((c.loadPath path).after before).target.1 - r.location.1| < c.linearSettledThreshold ∧
      |((c.loadPath path).after before).target.2 - r.location.2| < c.linearSettledThreshold
  stops : ∀ before r rest, events = before ++ .execute r :: rest →
    (((c.loadPath path).after before).execute r).2 = none →
    ((c.loadPath path).after before).path = [] ∧ ((c.loadPath path).after before).Near

theorem loadPath_path (path : List (Point ℚ)) : (c.loadPath path).path = path.tail := by
  cases path <;> rfl

theorem loadPath_threshold (path : List (Point ℚ)) :
    (c.loadPath path).linearSettledThreshold = c.linearSettledThreshold := by
  cases path <;> rfl

/-- **What an event does**: it leaves the path and the target alone, or it is an execute that finds
the errors within the threshold and takes the next waypoint as the target. -/
theorem next_cases (e : NavEvent) :
    (c.next e).linearSettledThreshold = c.linearSettledThreshold ∧
      ((c.next e).path = c.path ∧ (c.next e).target = c.target ∨
        (∃ r, e = .execute r) ∧ c.Near ∧
          ∃ pt, c.path = pt :: (c.next e).path ∧ (c.next e).target = pt) := by
  cases e with
  | isSettled t =>
    have h := c.isSettled_same t
    exact ⟨h.threshold, Or.inl ⟨h.path, h.target⟩⟩
  | execute r =>
    rcases c.execute_cases r with ⟨-, -, -, h⟩ | ⟨⟨-, -, hth⟩, h | ⟨hnear, hpop⟩⟩
    · exact ⟨h.threshold, Or.inl ⟨h.path, h.target⟩⟩
    · exact ⟨hth, Or.inl h⟩
    · exact ⟨hth, Or.inr ⟨⟨r, rfl⟩, hnear, hpop⟩⟩

theorem after_threshold (events : List NavEvent) :
    (c.after events).linearSettledThreshold = c.linearSettledThreshold := by
  induction events using List.reverseRecOn with
  | nil => rfl
  | append_singleton events e ih =>
    rw [after_concat, ((c.after events).next_cases e).1, ih]

/-- The target is a waypoint of `path`, and the waypoints after it are still to come. -/
def Tracks (c : ChassisAutoNavCommand) (path : List (Point ℚ)) : Prop :=
  ∃ i, path[i]? = some c.target ∧ c.path = path.drop (i + 1)

theorem tracks_loadPath {path : List (Point ℚ)} (hpath : path ≠ []) :
    (c.loadPath path).Tracks path := by
  obtain ⟨pt, rest, rfl⟩ := List.exists_cons_of_ne_nil hpath
  exact ⟨0, rfl, rfl⟩

theorem Tracks.next {c : ChassisAutoNavCommand} {path : List (Point ℚ)} (h : c.Tracks path)
    (e : NavEvent) : (c.next e).Tracks path := by
  obtain ⟨i, htarget, hrest⟩ := h
  obtain ⟨-, ⟨hpath', htarget'⟩ | ⟨-, -, pt, hpop, htarget'⟩⟩ := c.next_cases e
  · exact ⟨i, by rw [htarget', htarget], by rw [hpath', hrest]⟩
  · rw [hrest] at hpop
    refine ⟨i + 1, ?_, ?_⟩
    · rw [htarget', ← List.head?_drop, hpop, List.head?_cons]
    · rw [← List.tail_drop, hpop, List.tail_cons]

theorem tracks_after {path : List (Point ℚ)} (hpath : path ≠ []) (events : List NavEvent) :
    ((c.loadPath path).after events).Tracks path := by
  induction events using List.reverseRecOn with
  | nil => exact c.tracks_loadPath hpath
  | append_singleton events e ih =>
    rw [after_concat]
    exact ih.next e

/-- Once a waypoint has been popped and as long as some are left, there is a last execute, which
drove towards the target and took the errors that the controllers have. -/
theorem exists_last_execute (events : List NavEvent) (hpopped : (c.after events).path ≠ c.path)
    (hleft : (c.after events).path ≠ []) :
    ∃ earlier r polls, events = earlier ++ .execute r :: polls ∧
      (∀ p ∈ polls, ∃ t, p = .isSettled t) ∧
      SameNav (c.after (earlier ++ [.execute r])) (c.after events) ∧
      (c.after (earlier ++ [.execute r])).ErrorsFrom r.location := by
  induction events using List.reverseRecOn with
  | nil => exact absurd rfl hpopped
  | append_singleton events e ih =>
    cases e with
    | isSettled t =>
      have hsame := (c.after events).isSettled_same t
      rw [after_concat] at hpopped hleft
      obtain ⟨earlier, r, polls, hevents, hpolls, hnav, herr⟩ :=
        ih (hsame.path ▸ hpopped) (hsame.path ▸ hleft)
      refine ⟨earlier, r, polls ++ [.isSettled t], ?_, ?_, ?_, herr⟩
      · rw [hevents, List.append_assoc, List.cons_append]
      · intro p hp
        rcases List.mem_append.1 hp with hp | hp
        · exact hpolls p hp
        · exact ⟨t, List.mem_singleton.1 hp⟩
      · rw [c.after_concat events]
        exact hnav.trans hsame
    | execute r =>
      refine ⟨events, r, [], rfl, by simp, .refl _, ?_⟩
      rw [after_concat] at hleft ⊢
      rcases (c.after events).execute_cases r with ⟨-, hpath, -, hsame⟩ | ⟨⟨-, herr, -⟩, -⟩
      · exact absurd (hsame.path.trans hpath) hleft
      · exact herr

/-- **The command follows every path that is loaded**, from whatever state it is in. -/
theorem follows (path : List (Point ℚ)) (events : List NavEvent) : c.Follows path events where
  inOrder hpath before _ _ := c.tracks_after hpath before
  skipsNone before e _ _ := by
    rw [after_concat]
    obtain ⟨-, h | ⟨-, -, h⟩⟩ := ((c.loadPath path).after before).next_cases e
    · exact Or.inl h
    · exact Or.inr h
  reached before e _ _ hpop hfirst := by
    rw [after_concat] at hpop
    obtain ⟨-, ⟨hpath, -⟩ | ⟨hexecute, hnear, pt, hpath, -⟩⟩ :=
      ((c.loadPath path).after before).next_cases e
    · exact absurd hpath hpop
    · obtain ⟨earlier, r, polls, hbefore, hpolls, hsame, herr⟩ :=
        (c.loadPath path).exists_last_execute before (by rwa [loadPath_path])
          (by rw [hpath]; exact List.cons_ne_nil _ _)
      refine ⟨hexecute, earlier, r, polls, hbefore, hpolls, hsame.target.symm, herr, ?_⟩
      have herr' := hsame.errorsFrom herr
      rw [Near, after_threshold, loadPath_threshold, herr'.1, herr'.2] at hnear
      exact hnear
  stops before r _ _ hstop := by
    rcases ((c.loadPath path).after before).execute_cases r with ⟨-, hpath, hnear, -⟩ | ⟨⟨h, -⟩, -⟩
    · exact ⟨hpath, hnear⟩
    · exact absurd hstop h

end ChassisAutoNavCommand

end Aimbots.Chassis
