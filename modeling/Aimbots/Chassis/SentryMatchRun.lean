import Aimbots.Chassis.SentryMatchChassisControlCommand

/-!
# When a movement of the sentry ends

A run is any sequence of the calls that the scheduler makes.  Besides the command it remembers which
path was loaded last, where the robot was when `autoNavCommand` last computed its errors to it, and
whether the controllers are exposed: settled, but not on the end of that path.

The upkeep of a movement asks `autoNavCommand` whether it has settled and does not ask for the end
of the path, so a movement that is exposed when the delay is over ends there (`endsThere_iff`).
-/

namespace Aimbots.Chassis

open Pathfinding (Point)

/-- `autoNavCommand` on its way: the path that was loaded last, if any, and where the robot was when
the errors to it were last computed, if they were. -/
structure Journey where
  nav : ChassisAutoNavCommand
  loaded : Option (List (Point ℚ))
  location : Option (Point ℚ)

namespace Journey

/-- The controllers are asked whether they have settled. -/
def settle (j : Journey) (t : PollTime) : Journey := { j with nav := (j.nav.isSettled t).1 }

/-- A path is loaded. -/
def load (j : Journey) (path : List (Point ℚ)) : Journey := ⟨j.nav.loadPath path, some path, none⟩

/-- `autoNavCommand` executes. -/
def drive (j : Journey) (r : NavReading) : Journey :=
  ⟨(j.nav.execute r).1, j.loaded,
    if (j.nav.execute r).2.isSome then some r.location else j.location⟩

/-- No waypoint of the path is left, and the errors to it have been computed. -/
def AtEnd (j : Journey) : Prop := j.nav.path = [] ∧ j.loaded ≠ some [] ∧ j.location.isSome = true

/-- The robot is at its destination as far as `autoNavCommand` knows: no waypoint is left, and the
errors that were last computed are those to the last waypoint of the path that was loaded last, and
within the threshold. -/
def Arrived (j : Journey) : Prop :=
  j.nav.path = [] ∧ j.nav.Near ∧
    ∃ path waypoint location, j.loaded = some path ∧ path.getLast? = some waypoint ∧
      j.location = some location ∧ j.nav.xController.error = waypoint.1 - location.1 ∧
      j.nav.yController.error = waypoint.2 - location.2

/-- An `execute` leaves the controllers settled, but not on the end of the path: they had settled,
and there was no path or no error to it, or the waypoint that is taken is not the last and the robot
is within the threshold of it already. -/
def exposes (j : Journey) (r : NavReading) : Bool :=
  decide j.nav.Near &&
    match j.nav.path with
    | [] => decide (j.loaded = some []) || j.location.isNone
    | [_] => false
    | pt :: _ :: _ => decide (j.nav.Close pt r.location)

/-- What is known on the way. -/
structure Sound (j : Journey) : Prop where
  tracks : ∀ path, j.loaded = some path → path ≠ [] → j.nav.Tracks path
  pathNil : j.loaded = some [] → j.nav.path = []
  errors : ∀ location, j.location = some location → j.nav.ErrorsFrom location

variable {j : Journey}

theorem Sound.settle (h : j.Sound) (t : PollTime) : (j.settle t).Sound where
  tracks path hpath hne := (h.tracks path hpath hne).next (.isSettled t)
  pathNil hnil := (j.nav.isSettled_same t).path.trans (h.pathNil hnil)
  errors location hlocation := (j.nav.isSettled_same t).errorsFrom (h.errors location hlocation)

theorem sound_load (j : Journey) (path : List (Point ℚ)) : (j.load path).Sound where
  tracks path' hpath hne := by
    cases hpath
    exact j.nav.tracks_loadPath hne
  pathNil hnil := by
    cases hnil
    rfl
  errors _ hlocation := by cases hlocation

theorem Sound.drive (h : j.Sound) (r : NavReading) : (j.drive r).Sound where
  tracks path hpath hne := (h.tracks path hpath hne).next (.execute r)
  pathNil hnil := by
    rcases (j.nav.next_cases (.execute r)).2 with ⟨hpath, -⟩ | ⟨-, -, pt, hpath, -⟩
    · exact hpath.trans (h.pathNil hnil)
    · rw [h.pathNil hnil] at hpath
      cases hpath
  errors location hlocation := by
    rcases j.nav.execute_cases r with ⟨hstop, -, -, hsame⟩ | ⟨⟨hdrive, herr, -⟩, -⟩
    · rw [Journey.drive, hstop] at hlocation
      exact hsame.errorsFrom (h.errors location hlocation)
    · rw [Journey.drive, if_pos (Option.isSome_iff_ne_none.2 hdrive)] at hlocation
      cases hlocation
      exact herr

/-- **What leaves the controllers exposed**, after a question by somebody else. -/
theorem Sound.exposes_iff {clock : UInt32} {r : NavReading} (h : j.Sound)
    (hclock : j.nav.Clocked clock) (hr : r.Ordered clock) (hpolled : j.nav.XRunning ↔ j.nav.XNear) :
    j.exposes r = true ↔ (j.drive r).nav.Hot ∧ ¬ (j.drive r).AtEnd := by
  obtain ⟨-, hrunning, hstop, hpop, -, hdrive⟩ :=
    ChassisAutoNavCommand.execute_polled hclock hr hpolled
  by_cases hnear : j.nav.Near
  · cases hpath : j.nav.path with
    | nil =>
      obtain ⟨hsame, hnone⟩ := hstop hnear hpath
      have hhot : (j.drive r).nav.Hot := ⟨hsame.near_iff.2 hnear, hrunning.2 hnear⟩
      have hend : (j.drive r).AtEnd ↔ j.loaded ≠ some [] ∧ j.location.isSome = true := by
        simp [AtEnd, Journey.drive, hnone, hsame.path, hpath]
      rw [and_iff_right hhot, hend, exposes, hpath]
      by_cases hempty : j.loaded = some [] <;> cases j.location <;> simp [hnear, hempty]
    | cons pt rest =>
      obtain ⟨hrest, -⟩ := hpop hnear pt rest hpath
      have hsome : (j.nav.execute r).2.isSome = true :=
        Option.isSome_iff_ne_none.2 (hdrive (by simp [hpath])).2
      have hloaded : j.loaded ≠ some [] := fun hnil => by
        rw [h.pathNil hnil] at hpath
        cases hpath
      have hend : (j.drive r).AtEnd ↔ (j.nav.execute r).1.path = [] := by
        simp [AtEnd, Journey.drive, hsome, hloaded]
      rw [hend]
      refine Iff.trans ?_ (ChassisAutoNavCommand.hot_execute_iff hclock hr hpolled).symm
      rw [exposes, hpath]
      cases rest <;> simp [hnear]
  · refine iff_of_false (by simp [exposes, hnear]) fun hhot => ?_
    exact hnear (hrunning.1 hhot.1.2)

/-- What is known by `clock` of `autoNavCommand`, and that `exposed` says whether it is. -/
structure Inv (j : Journey) (exposed : Bool) (clock : UInt32) : Prop where
  clocked : j.nav.Clocked clock
  sound : j.Sound
  exposed_iff : exposed = true ↔ j.nav.Hot ∧ ¬ j.AtEnd

theorem Inv.mono {exposed : Bool} {clock now : UInt32} (h : j.Inv exposed clock)
    (hnow : clock ≤ now) : j.Inv exposed now := ⟨h.clocked.mono hnow, h.sound, h.exposed_iff⟩

/-- Controllers that have settled are exposed by a path that is loaded. -/
theorem Inv.load {exposed : Bool} {clock : UInt32} (h : j.Inv exposed clock)
    (path : List (Point ℚ)) : (j.load path).Inv (decide (j.load path).nav.Hot) clock where
  clocked := (ChassisAutoNavCommand.loadPath_clocked _ _).2 h.clocked
  sound := j.sound_load path
  exposed_iff := by
    have hend : ¬ (j.load path).AtEnd := fun hend => (by cases hend.2.2)
    rw [decide_eq_true_iff, and_iff_left hend]

theorem Sound.inv_drive {clock : UInt32} {r : NavReading} (h : j.Sound)
    (hclock : j.nav.Clocked clock) (hr : r.Ordered clock) (hpolled : j.nav.XRunning ↔ j.nav.XNear) :
    (j.drive r).Inv (j.exposes r) r.third.y where
  clocked := (ChassisAutoNavCommand.execute_polled hclock hr hpolled).1
  sound := h.drive r
  exposed_iff := h.exposes_iff hclock hr hpolled

/-- A robot that has settled at the end of the path has arrived. -/
theorem Sound.arrived_iff (h : j.Sound) (hloaded : j.loaded.isSome = true) :
    j.Arrived ↔ j.nav.Near ∧ j.AtEnd := by
  constructor
  · rintro ⟨hpath, hnear, path, waypoint, location, hload, hlast, hlocation, -⟩
    refine ⟨hnear, hpath, fun hnil => ?_, by rw [hlocation]; rfl⟩
    cases hload.symm.trans hnil
    cases hlast
  · rintro ⟨hnear, hpath, hne, hlocation⟩
    obtain ⟨path, hload⟩ := Option.isSome_iff_exists.1 hloaded
    obtain ⟨location, hlocation⟩ := Option.isSome_iff_exists.1 hlocation
    obtain ⟨i, htarget, hrest⟩ := h.tracks path hload fun hnil => hne (hload.trans (by rw [hnil]))
    have hi : i + 1 = path.length :=
      le_antisymm (List.getElem?_eq_some_iff.1 htarget).1
        (List.drop_eq_nil_iff.1 (hrest.symm.trans hpath))
    have hlast : path.getLast? = some j.nav.target := by
      rw [List.getLast?_eq_getElem?, ← hi, Nat.add_sub_cancel, htarget]
    obtain ⟨hx, hy⟩ := h.errors location hlocation
    exact ⟨hpath, hnear, path, _, location, hload, hlast, hlocation, hx, hy⟩

/-- A robot that has settled at the end of the path stays there. -/
theorem AtEnd.drive {clock : UInt32} {r : NavReading} (h : j.AtEnd) (hnear : j.nav.Near)
    (hclock : j.nav.Clocked clock) (hr : r.Ordered clock) (hpolled : j.nav.XRunning ↔ j.nav.XNear) :
    (j.drive r).nav.Near ∧ (j.drive r).AtEnd := by
  obtain ⟨-, -, hstop, -⟩ := ChassisAutoNavCommand.execute_polled hclock hr hpolled
  obtain ⟨hsame, hnone⟩ := hstop hnear h.1
  refine ⟨hsame.near_iff.2 hnear, hsame.path.trans h.1, h.2.1, ?_⟩
  rw [Journey.drive, hnone]
  exact h.2.2

end Journey

/-! ### Runs of the command -/

/-- The calls that the scheduler makes. -/
inductive SentryEvent
  | init (delayTime lockoutTime : UInt32)
  | execute (r : SentryReading)
  | finish

namespace SentryEvent

/-- The clock does not go back. -/
def Ordered (clock : UInt32) : SentryEvent → Prop
  | .init delayTime lockoutTime => clock ≤ delayTime ∧ delayTime ≤ lockoutTime
  | .execute r =>
    clock ≤ r.settledTime.x ∧ r.settledTime.x ≤ r.settledTime.y ∧ r.settledTime.y ≤ r.delayTime ∧
      r.delayTime ≤ r.lockoutRestartTime ∧ r.lockoutRestartTime ≤ r.lockoutTime ∧
      r.nav.Ordered r.lockoutTime
  | .finish => True

/-- The clock after a call. -/
def clock (clock : UInt32) : SentryEvent → UInt32
  | .init _ lockoutTime => lockoutTime
  | .execute r => r.nav.third.y
  | .finish => clock

/-- The clock does not go back in a sequence of calls. -/
def AllOrdered : UInt32 → List SentryEvent → Prop
  | _, [] => True
  | now, e :: events => e.Ordered now ∧ AllOrdered (e.clock now) events

instance decidableOrdered (now : UInt32) : ∀ e, Decidable (Ordered now e)
  | .init .. => inferInstanceAs (Decidable (_ ∧ _))
  | .execute _ => inferInstanceAs (Decidable (_ ∧ _))
  | .finish => isTrue trivial

instance decidableAllOrdered : ∀ now events, Decidable (AllOrdered now events)
  | _, [] => isTrue trivial
  | now, e :: events =>
    have := decidableAllOrdered (e.clock now) events
    inferInstanceAs (Decidable (e.Ordered now ∧ _))

/-- The upkeep reads the time after the question whether the robot has settled, and the lockout's
after that. -/
theorem settled_le_lockoutTime {now : UInt32} {r : SentryReading} (h : (execute r).Ordered now) :
    r.settledTime.y ≤ r.lockoutTime := by
  obtain ⟨-, -, hdelay, hrestart, hlockout, -⟩ := h
  exact UInt32.le_trans hdelay (UInt32.le_trans hrestart hlockout)

theorem le_lockoutTime {now : UInt32} {r : SentryReading} (h : (execute r).Ordered now) :
    now ≤ r.lockoutTime :=
  UInt32.le_trans h.1 (UInt32.le_trans h.2.1 (settled_le_lockoutTime h))

theorem Ordered.le_clock {now : UInt32} {e : SentryEvent} (h : e.Ordered now) :
    now ≤ e.clock now := by
  cases e with
  | init => exact UInt32.le_trans h.1 h.2
  | execute r => exact UInt32.le_trans (le_lockoutTime h) (NavReading.Ordered.le h.2.2.2.2.2)
  | finish => exact UInt32.le_refl _

theorem allOrdered_append {now : UInt32} {before events : List SentryEvent}
    (h : AllOrdered now (before ++ events)) :
    AllOrdered now before ∧ AllOrdered (before.foldl clock now) events := by
  induction before generalizing now with
  | nil => exact ⟨trivial, h⟩
  | cons e before ih => exact ⟨⟨h.1, (ih h.2).1⟩, (ih h.2).2⟩

end SentryEvent

/-- The command, with what is remembered of its run. -/
structure SentryRun where
  command : SentryMatchChassisControlCommand
  loaded : Option (List (Point ℚ))
  location : Option (Point ℚ)
  exposed : Bool

namespace SentryRun

/-- The run begins with the constructor. -/
def start (lastChassisState : ChassisMatchStates) (autoNavigator : AutoNavigatorHolonomic)
    (xController yController : Utils.SmoothPIDWrapper)
    (linearSettledThreshold : ℚ) : SentryRun where
  command := .construct lastChassisState
    (.construct autoNavigator xController yController linearSettledThreshold)
  loaded := none
  location := none
  exposed := false

/-- `autoNavCommand` and its path. -/
def journey (run : SentryRun) : Journey :=
  ⟨run.command.autoNavCommand, run.loaded, run.location⟩

/-- `autoNavCommand` and its path when an `execute` comes to the scheduler. -/
def prepared (run : SentryRun) (r : SentryReading) : Journey where
  nav := (run.command.prepare r).autoNavCommand
  loaded := (run.command.loadedPath r).or run.loaded
  location := if (run.command.loadedPath r).isSome then none else run.location

/-- Whether an `execute` leaves the controllers exposed. -/
def exposedAfter (run : SentryRun) (r : SentryReading) : Bool :=
  if r.inGame then
    if run.command.activeMovement then (run.prepared r).exposes r.nav
    else if (run.command.loadedPath r).isSome then decide (run.prepared r).nav.Hot
    else run.exposed
  else run.exposed

/-- The run after a call. -/
def next (run : SentryRun) : SentryEvent → SentryRun
  | .init delayTime lockoutTime => { run with command := run.command.init delayTime lockoutTime }
  | .execute r =>
    { command := run.command.execute r
      loaded := (run.command.loadedPath r).or run.loaded
      location :=
        if run.command.drives r then some r.nav.location
        else if (run.command.loadedPath r).isSome then none else run.location
      exposed := run.exposedAfter r }
  | .finish => { run with command := run.command.finish }

/-- The run after some calls. -/
def after (run : SentryRun) (events : List SentryEvent) : SentryRun := events.foldl next run

/-- An `execute` that ends a movement does so at its destination. -/
def EndsThere (run : SentryRun) (r : SentryReading) : Prop :=
  run.command.activeMovement = true → (run.command.execute r).activeMovement = false →
    run.journey.Arrived ∧ (run.next (.execute r)).journey.Arrived

/-- The delay of a movement in `GUARDING` is over while the controllers are exposed. -/
def Mistaken (run : SentryRun) (r : SentryReading) : Prop :=
  r.inGame = true ∧ run.command.chassisState = .GUARDING ∧ run.command.activeMovement = true ∧
    run.command.delayTimer.isExpired r.delayTime = true ∧ run.exposed = true

/-- What is known by `clock`: the command is in `START`, or it is in `GUARDING` and has loaded the
path for that; and the lockout is over. -/
structure Inv (run : SentryRun) (clock : UInt32) : Prop where
  state : run.command.chassisState = .START ∨
    run.command.chassisState = .GUARDING ∧ run.command.lastChassisState = .GUARDING ∧
      run.loaded.isSome = true
  lockout : run.command.lockoutTimer.isRunning = true → run.command.lockoutTimer.expireTime ≤ clock
  active : run.command.activeMovement = true → run.command.lockoutTimer.isRunning = true
  journey : run.journey.Inv run.exposed clock

variable {run : SentryRun} {clock : UInt32} {r : SentryReading}

theorem inv_start (lastChassisState : ChassisMatchStates) (autoNavigator : AutoNavigatorHolonomic)
    (xController yController : Utils.SmoothPIDWrapper) (linearSettledThreshold : ℚ) :
    (start lastChassisState autoNavigator xController yController
      linearSettledThreshold).Inv 0 where
  state := Or.inl rfl
  lockout hrunning := by cases hrunning
  active hactive := by cases hactive
  journey :=
    { clocked := ⟨fun hrunning => (by cases hrunning), fun hrunning => (by cases hrunning)⟩
      sound := ⟨fun _ hloaded => (by cases hloaded), fun hloaded => (by cases hloaded),
        fun _ hlocation => (by cases hlocation)⟩
      exposed_iff := iff_of_false Bool.false_ne_true fun hhot => (by cases hhot.1.2.1) }

/-- No place that the command comes to has a lockout: after the upkeep it is over. -/
theorem Inv.lockoutAfter (h : run.Inv clock) (hr : (SentryEvent.execute r).Ordered clock)
    (hactive : run.command.activeMovement = true) :
    (run.command.lockoutAfter r).isRunning = true ∧
      (run.command.lockoutAfter r).expireTime ≤ r.lockoutTime := by
  have hnone : STATE_LOCKOUT_TIMES run.command.chassisState = 0 := by
    rcases h.state with hstate | ⟨hstate, -⟩ <;> rw [hstate] <;> rfl
  rw [SentryMatchChassisControlCommand.lockoutAfter]
  split_ifs
  · refine ⟨rfl, ?_⟩
    rw [Tap.Timeout.restart, hnone, UInt32.add_zero]
    exact hr.2.2.2.2.1
  · have hrunning := h.active hactive
    exact ⟨hrunning, UInt32.le_trans (h.lockout hrunning) (SentryEvent.le_lockoutTime hr)⟩

theorem prepared_of_none {nav : ChassisAutoNavCommand} (hload : run.command.loadedPath r = none)
    (hnav : (run.command.prepare r).autoNavCommand = nav) :
    run.prepared r = ⟨nav, run.loaded, run.location⟩ := by
  rw [prepared, hload, hnav]
  rfl

theorem prepared_of_some {j : Journey} {path : List (Point ℚ)}
    (hload : run.command.loadedPath r = some path)
    (hnav : (run.command.prepare r).autoNavCommand = j.nav.loadPath path) :
    run.prepared r = j.load path := by
  rw [prepared, hload, hnav]
  rfl

/-- **An `execute` of a movement, up to the scheduler.**  `autoNavCommand` has been asked whether it
has settled, and may have been given a path; it drives next. -/
theorem Inv.prepare_active (h : run.Inv clock) (hr : (SentryEvent.execute r).Ordered clock)
    (hgame : r.inGame = true) (hactive : run.command.activeMovement = true) :
    (run.command.prepare r).scheduled = some .autoNavCommand ∧
      (run.command.chassisState = .START ∧
          run.prepared r = (run.journey.settle r.settledTime).load (r.found (3.0, 4.5)) ∨
        run.command.chassisState = .GUARDING ∧
          run.prepared r = run.journey.settle r.settledTime) ∧
      ((run.command.prepare r).chassisState = .GUARDING ∧
        (run.command.prepare r).lastChassisState = .GUARDING ∧
        (run.prepared r).loaded.isSome = true) ∧
      (run.command.prepare r).lockoutTimer = run.command.lockoutAfter r ∧
      ((run.command.prepare r).activeMovement = false ↔
        run.command.chassisState = .GUARDING ∧ run.command.ends r = true) := by
  obtain ⟨hrunning, hexpire⟩ := h.lockoutAfter hr hactive
  have hlockout : (run.command.lockoutAfter r).isExpired r.lockoutTime = true := by
    simp [Tap.Timeout.isExpired, hrunning, hexpire]
  have hload := run.command.loadedPath_of_inGame hgame
  rcases h.state with hstate | ⟨hstate, hlast, hloaded⟩
  · obtain ⟨hprepare, hsetup⟩ :=
      SentryMatchChassisControlCommand.prepare_start_active hactive hstate hlockout
    rw [hsetup] at hload
    have hprepared : run.prepared r =
        (run.journey.settle r.settledTime).load (r.found (3.0, 4.5)) :=
      prepared_of_some hload (congrArg (·.autoNavCommand) hprepare)
    rw [hprepared, hprepare]
    exact ⟨rfl, Or.inl ⟨hstate, rfl⟩, ⟨rfl, rfl, rfl⟩, rfl, by simp [hactive, hstate]⟩
  · obtain ⟨hprepare, hsetup⟩ :=
      SentryMatchChassisControlCommand.prepare_guarding_active hactive hstate hlast (r := r)
    rw [hsetup] at hload
    have hprepared : run.prepared r = run.journey.settle r.settledTime :=
      prepared_of_none hload (congrArg (·.autoNavCommand) hprepare)
    rw [hprepared, hprepare]
    exact ⟨rfl, Or.inr ⟨hstate, rfl⟩, ⟨hstate, hlast, hloaded⟩, rfl, by simp [hstate]⟩

/-- **An `execute` without a movement, up to the scheduler.**  `autoNavCommand` may have been given
a path; it does not drive. -/
theorem Inv.prepare_inactive (h : run.Inv clock) (hgame : r.inGame = true)
    (hactive : run.command.activeMovement = false) :
    (run.command.prepare r).scheduled = some .tokyoCommand ∧
      (run.command.loadedPath r = none ∧ run.prepared r = run.journey ∨
        ∃ path, run.command.loadedPath r = some path ∧ run.prepared r = run.journey.load path) ∧
      ((run.command.prepare r).chassisState = .START ∨
        (run.command.prepare r).chassisState = .GUARDING ∧
          (run.command.prepare r).lastChassisState = .GUARDING ∧
          (run.prepared r).loaded.isSome = true) ∧
      (run.command.prepare r).lockoutTimer = run.command.lockoutTimer ∧
      ((run.command.prepare r).activeMovement = true →
        run.command.lockoutTimer.isRunning = true) := by
  have hload := run.command.loadedPath_of_inGame hgame
  rcases h.state with hstate | ⟨hstate, hlast, hloaded⟩
  · cases hlockout : run.command.lockoutTimer.isExpired r.lockoutTime with
    | true =>
      obtain ⟨hprepare, hsetup⟩ :=
        SentryMatchChassisControlCommand.prepare_start_inactive hactive hstate hlockout
      rw [hsetup] at hload
      have hprepared : run.prepared r = run.journey.load (r.found (3.0, 4.5)) :=
        prepared_of_some hload (congrArg (·.autoNavCommand) hprepare)
      rw [hprepared, hprepare]
      refine ⟨rfl, Or.inr ⟨_, hload, rfl⟩, Or.inr ⟨rfl, rfl, rfl⟩, rfl, fun _ => ?_⟩
      exact (Bool.and_eq_true_iff.1 hlockout).1
    | false =>
      obtain ⟨hprepare, hsetup⟩ :=
        SentryMatchChassisControlCommand.prepare_start_locked hactive hstate hlockout
      have hinactive : (run.command.prepare r).activeMovement = false := by
        rw [hprepare]
        exact hactive
      refine ⟨by rw [hprepare], ?_, Or.inl (by rw [hprepare]; exact hstate), by rw [hprepare],
        fun h' => absurd (hinactive.symm.trans h') Bool.false_ne_true⟩
      by_cases hlast : run.command.lastChassisState = .START
      · rw [if_pos hlast] at hprepare hsetup
        rw [hsetup] at hload
        exact Or.inl ⟨hload, prepared_of_none hload (congrArg (·.autoNavCommand) hprepare)⟩
      · rw [if_neg hlast] at hprepare hsetup
        rw [hsetup] at hload
        exact Or.inr ⟨_, hload, prepared_of_some hload (congrArg (·.autoNavCommand) hprepare)⟩
  · obtain ⟨hprepare, hsetup⟩ :=
      SentryMatchChassisControlCommand.prepare_guarding_inactive hactive hstate hlast (r := r)
    rw [hsetup] at hload
    have hprepared : run.prepared r = run.journey :=
      prepared_of_none hload (congrArg (·.autoNavCommand) hprepare)
    rw [hprepared, hprepare]
    refine ⟨rfl, Or.inl ⟨hload, rfl⟩, Or.inr ⟨hstate, hlast, hloaded⟩, rfl, fun h' => ?_⟩
    exact absurd (hactive.symm.trans h') Bool.false_ne_true

/-- `autoNavCommand` as the scheduler comes to it in a movement: it has been asked whether it has
settled. -/
theorem Inv.polled (h : run.Inv clock) (hr : (SentryEvent.execute r).Ordered clock)
    (hgame : r.inGame = true) (hactive : run.command.activeMovement = true) :
    (run.prepared r).Sound ∧ (run.prepared r).nav.Clocked r.lockoutTime ∧
      ((run.prepared r).nav.XRunning ↔ (run.prepared r).nav.XNear) := by
  obtain ⟨-, hprepared, -⟩ := h.prepare_active hr hgame hactive
  obtain ⟨hclock, hx, -⟩ := ChassisAutoNavCommand.isSettled_timers h.journey.clocked hr.1 hr.2.1
  have hclock' := hclock.mono (SentryEvent.settled_le_lockoutTime hr)
  have hsame := run.command.autoNavCommand.isSettled_same r.settledTime
  have hnear : (run.command.autoNavCommand.isSettled r.settledTime).1.XNear ↔
      run.command.autoNavCommand.XNear := by
    rw [ChassisAutoNavCommand.XNear, hsame.xError, hsame.threshold]
    rfl
  rcases hprepared with ⟨-, hprepared⟩ | ⟨-, hprepared⟩
  · rw [hprepared]
    refine ⟨Journey.sound_load _ _, ?_, ?_⟩
    · exact (ChassisAutoNavCommand.loadPath_clocked _ _).2 hclock'
    · exact (ChassisAutoNavCommand.loadPath_xRunning _ _).trans
        ((hx.trans hnear.symm).trans (ChassisAutoNavCommand.loadPath_xNear _ _).symm)
  · rw [hprepared]
    exact ⟨h.journey.sound.settle _, hclock', hx.trans hnear.symm⟩

/-- A movement goes on with `autoNavCommand` driving. -/
theorem Inv.next_active (h : run.Inv clock) (hr : (SentryEvent.execute r).Ordered clock)
    (hgame : r.inGame = true) (hactive : run.command.activeMovement = true) :
    run.command.execute r =
        { run.command.prepare r with
          autoNavCommand := ((run.prepared r).nav.execute r.nav).1 } ∧
      (run.next (.execute r)).journey = (run.prepared r).drive r.nav := by
  obtain ⟨hscheduled, -⟩ := h.prepare_active hr hgame hactive
  obtain ⟨hexecute, hdrives⟩ :=
    SentryMatchChassisControlCommand.execute_of_autoNavCommand hgame hscheduled
  refine ⟨hexecute, ?_⟩
  rw [SentryRun.journey, next, hexecute, hdrives]
  rfl

/-- Without a movement `autoNavCommand` does not drive. -/
theorem Inv.next_inactive (h : run.Inv clock) (hgame : r.inGame = true)
    (hactive : run.command.activeMovement = false) :
    run.command.execute r = run.command.prepare r ∧
      (run.next (.execute r)).journey = run.prepared r := by
  obtain ⟨hscheduled, -⟩ := h.prepare_inactive hgame hactive
  obtain ⟨hexecute, hdrives⟩ :=
    SentryMatchChassisControlCommand.execute_of_tokyoCommand hgame hscheduled
  refine ⟨hexecute, ?_⟩
  rw [SentryRun.journey, next, hexecute, hdrives]
  rfl

theorem Inv.mono {now : UInt32} (h : run.Inv clock) (hnow : clock ≤ now) : run.Inv now :=
  ⟨h.state, fun hrunning => UInt32.le_trans (h.lockout hrunning) hnow, h.active,
    h.journey.mono hnow⟩

/-- An `execute` out of the game. -/
theorem Inv.next_out (h : run.Inv clock) (hgame : r.inGame = false) :
    (run.next (.execute r)).Inv clock := by
  obtain ⟨hexecute, hload, hdrives⟩ :=
    SentryMatchChassisControlCommand.execute_of_not_inGame (s := run.command) hgame
  have hnext : run.next (.execute r) =
      { run with command := { run.command with scheduled := none } } := by
    simp [next, hexecute, hload, hdrives, exposedAfter, hgame]
  rw [hnext]
  exact ⟨h.state, h.lockout, h.active, h.journey⟩

/-- An `execute` without a movement. -/
theorem Inv.next_idle (h : run.Inv clock) (hgame : r.inGame = true)
    (hactive : run.command.activeMovement = false) : (run.next (.execute r)).Inv clock := by
  obtain ⟨-, hprepared, hstate, hlockout, hmoves⟩ := h.prepare_inactive hgame hactive (r := r)
  obtain ⟨hexecute, hjourney⟩ := h.next_inactive hgame hactive (r := r)
  have hcommand : (run.next (.execute r)).command = run.command.prepare r := hexecute
  have hexposed : (run.next (.execute r)).exposed =
      if (run.command.loadedPath r).isSome then decide (run.prepared r).nav.Hot
      else run.exposed := by
    simp [next, exposedAfter, hgame, hactive]
  refine ⟨?_, ?_, ?_, ?_⟩
  · rw [hcommand]
    exact hstate
  · rw [hcommand, hlockout]
    exact h.lockout
  · rw [hcommand, hlockout]
    exact hmoves
  · rw [hjourney, hexposed]
    rcases hprepared with ⟨hload, hprepared⟩ | ⟨path, hload, hprepared⟩
    · rw [hprepared, hload]
      exact h.journey
    · rw [hprepared, hload]
      exact h.journey.load path

/-- An `execute` of a movement. -/
theorem Inv.next_movement (h : run.Inv clock) (hr : (SentryEvent.execute r).Ordered clock)
    (hgame : r.inGame = true) (hactive : run.command.activeMovement = true) :
    (run.next (.execute r)).Inv r.nav.third.y := by
  have hnav : r.nav.Ordered r.lockoutTime := hr.2.2.2.2.2
  obtain ⟨-, -, ⟨hstate, hlast, hloaded⟩, hlockout, -⟩ := h.prepare_active hr hgame hactive
  obtain ⟨hrunning, hexpire⟩ := h.lockoutAfter hr hactive
  obtain ⟨hsound, hclock, hpolled⟩ := h.polled hr hgame hactive
  obtain ⟨hexecute, hjourney⟩ := h.next_active hr hgame hactive
  have hcommand : (run.next (.execute r)).command = run.command.execute r := rfl
  have hexposed : (run.next (.execute r)).exposed = (run.prepared r).exposes r.nav := by
    simp [next, exposedAfter, hgame, hactive]
  rw [hexecute] at hcommand
  refine ⟨?_, ?_, ?_, ?_⟩
  · rw [hcommand]
    exact Or.inr ⟨hstate, hlast, hloaded⟩
  · rw [hcommand]
    exact fun _ => hlockout ▸ UInt32.le_trans hexpire hnav.le
  · rw [hcommand]
    exact fun _ => hlockout ▸ hrunning
  · rw [hjourney, hexposed]
    exact hsound.inv_drive hclock hnav hpolled

/-- **Every call keeps what is known.** -/
theorem Inv.next {e : SentryEvent} (h : run.Inv clock) (he : e.Ordered clock) :
    (run.next e).Inv (e.clock clock) := by
  cases e with
  | init delayTime lockoutTime =>
    refine ⟨Or.inl rfl, fun _ => ?_, fun _ => rfl, h.journey.mono he.le_clock⟩
    show lockoutTime + 0 ≤ lockoutTime
    rw [UInt32.add_zero]
    exact UInt32.le_refl _
  | finish => exact ⟨Or.inl rfl, h.lockout, h.active, h.journey⟩
  | execute r =>
    cases hgame : r.inGame with
    | false => exact (h.next_out hgame).mono he.le_clock
    | true =>
      cases hactive : run.command.activeMovement with
      | false => exact (h.next_idle hgame hactive).mono he.le_clock
      | true => exact h.next_movement he hgame hactive

theorem Inv.after {events : List SentryEvent} (h : run.Inv clock)
    (hevents : SentryEvent.AllOrdered clock events) :
    (run.after events).Inv (events.foldl SentryEvent.clock clock) := by
  induction events generalizing run clock with
  | nil => exact h
  | cons e events ih => exact ih (h.next hevents.1) hevents.2

/-- A movement ends in `GUARDING`, once the controllers have settled and the delay is over. -/
theorem Inv.ended_iff (h : run.Inv clock) (hr : (SentryEvent.execute r).Ordered clock)
    (hactive : run.command.activeMovement = true) :
    (run.command.execute r).activeMovement = false ↔
      r.inGame = true ∧ run.command.chassisState = .GUARDING ∧
        run.command.autoNavCommand.Hot ∧
        run.command.delayTimer.isExpired r.delayTime = true := by
  cases hgame : r.inGame with
  | false =>
    obtain ⟨hexecute, -⟩ :=
      SentryMatchChassisControlCommand.execute_of_not_inGame (s := run.command) hgame
    rw [hexecute]
    simp [hactive]
  | true =>
    obtain ⟨-, -, -, -, hended⟩ := h.prepare_active hr hgame hactive
    obtain ⟨hexecute, -⟩ := h.next_active hr hgame hactive
    obtain ⟨-, -, -, hsettled⟩ :=
      ChassisAutoNavCommand.isSettled_timers h.journey.clocked hr.1 hr.2.1
    rw [hexecute, and_iff_right rfl]
    refine hended.trans (and_congr_right fun _ => ?_)
    rw [SentryMatchChassisControlCommand.ends, Bool.and_eq_true_iff]
    exact and_congr_left' hsettled

/-- **One `execute`** ends no movement but at its destination exactly if it is not mistaken. -/
theorem Inv.endsThere_iff_not_mistaken (h : run.Inv clock)
    (hr : (SentryEvent.execute r).Ordered clock) :
    run.EndsThere r ↔ ¬ run.Mistaken r := by
  constructor
  · rintro hends ⟨hgame, hstate, hactive, hdelay, hexposed⟩
    obtain ⟨hhot, hnot⟩ := h.journey.exposed_iff.1 hexposed
    have hended := (h.ended_iff hr hactive).2 ⟨hgame, hstate, hhot, hdelay⟩
    obtain ⟨hpath, hnear, path, waypoint, location, hload, hlast, hlocation, -⟩ :=
      (hends hactive hended).1
    refine hnot ⟨hpath, fun hnil => ?_, by rw [hlocation]; rfl⟩
    cases hload.symm.trans hnil
    cases hlast
  · intro hnot hactive hended
    obtain ⟨hgame, hstate, hhot, hdelay⟩ := (h.ended_iff hr hactive).1 hended
    have hend : run.journey.AtEnd := by
      by_contra hend
      exact hnot ⟨hgame, hstate, hactive, hdelay, h.journey.exposed_iff.2 ⟨hhot, hend⟩⟩
    have hloaded : run.loaded.isSome = true := by
      rcases h.state with hstart | ⟨-, -, hloaded⟩
      · cases hstart.symm.trans hstate
      · exact hloaded
    refine ⟨(h.journey.sound.arrived_iff hloaded).2 ⟨hhot.1, hend⟩, ?_⟩
    obtain ⟨-, ⟨hstart, -⟩ | ⟨-, hprepared⟩, -⟩ := h.prepare_active hr hgame hactive
    · cases hstart.symm.trans hstate
    · obtain ⟨hsound, hclock, hpolled⟩ := h.polled hr hgame hactive
      have hsame := run.command.autoNavCommand.isSettled_same r.settledTime
      rw [hprepared] at hsound hclock hpolled
      have hend' : (run.journey.settle r.settledTime).AtEnd :=
        ⟨hsame.path.trans hend.1, hend.2⟩
      have hnear' : (run.journey.settle r.settledTime).nav.Near := hsame.near_iff.2 hhot.1
      rw [(h.next_active hr hgame hactive).2, hprepared]
      refine ((hsound.drive r.nav).arrived_iff ?_).2
        (hend'.drive hnear' hclock hr.2.2.2.2.2 hpolled)
      exact hloaded

/-- **When the movements of a run end at their destinations**: every movement does, exactly if no
`execute` in `GUARDING` finds the delay over while the controllers are exposed. -/
theorem endsThere_iff (lastChassisState : ChassisMatchStates)
    (autoNavigator : AutoNavigatorHolonomic) (xController yController : Utils.SmoothPIDWrapper)
    (linearSettledThreshold : ℚ) (events : List SentryEvent)
    (hevents : SentryEvent.AllOrdered 0 events) :
    (∀ before r rest, events = before ++ .execute r :: rest →
        ((start lastChassisState autoNavigator xController yController
          linearSettledThreshold).after before).EndsThere r) ↔
      ∀ before r rest, events = before ++ .execute r :: rest →
        ¬ ((start lastChassisState autoNavigator xController yController
          linearSettledThreshold).after before).Mistaken r := by
  have hstep (before : List SentryEvent) (r : SentryReading) (rest : List SentryEvent)
      (hsplit : events = before ++ .execute r :: rest) :
      ((start lastChassisState autoNavigator xController yController
          linearSettledThreshold).after before).EndsThere r ↔
        ¬ ((start lastChassisState autoNavigator xController yController
          linearSettledThreshold).after before).Mistaken r := by
    obtain ⟨hbefore, hr, -⟩ := SentryEvent.allOrdered_append (hsplit ▸ hevents)
    exact ((inv_start lastChassisState autoNavigator xController yController
      linearSettledThreshold).after hbefore).endsThere_iff_not_mistaken hr
  exact ⟨fun h before r rest hsplit => (hstep before r rest hsplit).1 (h before r rest hsplit),
    fun h before r rest hsplit => (hstep before r rest hsplit).2 (h before r rest hsplit)⟩

/-- The robot as it is switched on, with its memory zero. -/
def switchedOn : SentryRun :=
  start .START ⟨(0, 0), 0, 0⟩ (.construct defaultLinearConfig 0 0 0 0)
    (.construct defaultLinearConfig 0 0 0 0) (1 / 20)

/-- What the robot reads at a time at (2.28, 2.53), next to the corner (2.3, 2.545) of the wall that
lies between it and its destination: the path found leads along the wall's end. -/
def cornerReading (time : UInt32) : SentryReading where
  inGame := true
  stageTimeRemaining := 300
  currentHp := 400
  settledTime := ⟨time, time⟩
  delayTime := time
  lockoutRestartTime := time
  lockoutTime := time
  found := fun _ => [(2.28, 2.53), (2.3, 2.545), (2.3, 3.75), (3.0, 4.5)]
  nav := ⟨⟨time, time⟩, ⟨time, time⟩, ⟨time, time⟩, ⟨time, time⟩, (2.28, 2.53), (0, 0)⟩

/-- The calls up to the second `execute` in the game. -/
def cornerEvents : List SentryEvent := [.init 0 0, .execute (cornerReading 1000)]

theorem endsThere_iff_corner :
    (∀ before r rest,
        cornerEvents ++ [.execute (cornerReading 1001)] = before ++ .execute r :: rest →
        (switchedOn.after before).EndsThere r) ↔
      ∀ before r rest,
        cornerEvents ++ [.execute (cornerReading 1001)] = before ++ .execute r :: rest →
        ¬ (switchedOn.after before).Mistaken r :=
  endsThere_iff .START ⟨(0, 0), 0, 0⟩ (.construct defaultLinearConfig 0 0 0 0)
    (.construct defaultLinearConfig 0 0 0 0) (1 / 20)
    (cornerEvents ++ [.execute (cornerReading 1001)])
    (by decide)

/-- The robot begins to spin in place at the first corner, with two waypoints left. -/
theorem not_endsThere_corner :
    (switchedOn.after cornerEvents).command.autoNavCommand.path = [(2.3, 3.75), (3.0, 4.5)] ∧
      ¬ (switchedOn.after cornerEvents).EndsThere (cornerReading 1001) := by
  have hleft :
      (switchedOn.after cornerEvents).command.autoNavCommand.path = [(2.3, 3.75), (3.0, 4.5)] := by
    decide +kernel
  refine ⟨hleft, fun hends => ?_⟩
  have harrived := (hends (by decide +kernel) (by decide +kernel)).1
  cases hleft.symm.trans harrived.1

end SentryRun

end Aimbots.Chassis
