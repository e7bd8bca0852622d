import Aimbots.Chassis.SentryMatchChassisControlCommand
import Aimbots.TurretComms.Receiver

/-!
# `gimbal_patrol_command.cpp`: the yaw target

The sentry's gimbal looks at one place after the other and stays at each for a time.  An update asks
the yaw controller whether it has settled, first without a timeout, for the display, and then with
one of 500 ms, for the patrol timer.  Both questions go to one `SettledUtil`, which nobody else
asks.

`dwelled_iff` says when the answers can be relied on.
-/

namespace Aimbots.Gimbal

open Tap Utils
open Chassis (ChassisMatchStates)

/-- The tolerance of the yaw controller, `modm::toRadian(15.0f)`. -/
def yawTolerance : ℚ := 15 * TurretComms.M_PI / 180

/-- `NUM_PATROL_LOCATIONS`. -/
def NUM_PATROL_LOCATIONS : ℤ := 4

/-- `safePatrolCoordinateTimes`. -/
def safePatrolCoordinateTimes : List UInt32 := [1500, 1000, 600, 1500]

/-- `capPatrolCoordinateTimes`. -/
def capPatrolCoordinateTimes : List UInt32 := [800, 1000, 800, 1000]

/-- `aggroPatrolCoordinateTimes`. -/
def aggroPatrolCoordinateTimes : List UInt32 := [1000, 1500, 600, 1000]

/-- `allOnlineYawControllersSettled`; the sentry has one yaw motor. -/
def allOnlineYawControllersSettled (s : SettledUtil) (online : Bool) (now : UInt32)
    (error errTolerance : ℚ) (errTimeout : UInt32) : SettledUtil × Bool :=
  if online then s.isSettled now error errTolerance (some errTimeout) else (s, false)

/-- What an `updateYawPatrolTarget` reads: whether the yaw motor is online, the error of its
controller, and the clock each time it is asked. -/
structure PatrolUpdate where
  online : Bool
  error : ℚ
  displayTime : UInt32
  settledTime : UInt32
  executeTime : UInt32
  expiredTime : UInt32
  restartTime : UInt32
  chassisState : ChassisMatchStates
deriving DecidableEq, Repr

/-- What an update does with the patrol timer. -/
inductive PatrolAction
  | executes
  | starts
deriving DecidableEq, Repr

/-- The members of `GimbalPatrolCommand` that choose the target, with the `SettledUtil` of the yaw
controller. -/
structure GimbalPatrolCommand where
  settledUtil : SettledUtil
  patrolTimer : Timeout
  patrolCoordinateIndex : ℤ
  patrolCoordinateIncrement : ℤ
deriving DecidableEq, Repr

namespace GimbalPatrolCommand

/-- The constructor. -/
def construct : GimbalPatrolCommand where
  settledUtil := .construct
  patrolTimer := .stopped
  patrolCoordinateIndex := 0
  patrolCoordinateIncrement := 1

/-- The next target: the index bounces at either end. -/
def bounce (g : GimbalPatrolCommand) : GimbalPatrolCommand :=
  let patrolCoordinateIndex := g.patrolCoordinateIndex + g.patrolCoordinateIncrement
  { g with
    patrolCoordinateIndex
    patrolCoordinateIncrement :=
      if patrolCoordinateIndex = 0 ∨ patrolCoordinateIndex = NUM_PATROL_LOCATIONS - 1 then
        g.patrolCoordinateIncrement * -1
      else g.patrolCoordinateIncrement }

/-- How long the gimbal looks at the target. -/
def patrolTime (g : GimbalPatrolCommand) : ChassisMatchStates → UInt32
  | .CAPTURE => capPatrolCoordinateTimes.getD g.patrolCoordinateIndex.toNat 0
  | .AGGRO => aggroPatrolCoordinateTimes.getD g.patrolCoordinateIndex.toNat 0
  | _ => safePatrolCoordinateTimes.getD g.patrolCoordinateIndex.toNat 0

/-- What an update does with the patrol timer once the yaw controller has settled. -/
def patrol (g : GimbalPatrolCommand) (u : PatrolUpdate) :
    GimbalPatrolCommand × Option PatrolAction :=
  let executed := g.patrolTimer.execute u.executeTime
  let g := { g with patrolTimer := executed.2 }
  if executed.1 then (g.bounce, some .executes)
  else if g.patrolTimer.isExpired u.expiredTime || g.patrolTimer.isStopped then
    ({ g with
        patrolTimer := g.patrolTimer.restart u.restartTime (g.patrolTime u.chassisState) },
      some .starts)
  else (g, none)

/-- `updateYawPatrolTarget`. -/
def updateYawPatrolTarget (g : GimbalPatrolCommand) (u : PatrolUpdate) :
    GimbalPatrolCommand × Option PatrolAction :=
  let display :=
    allOnlineYawControllersSettled g.settledUtil u.online u.displayTime u.error yawTolerance 0
  let settled :=
    allOnlineYawControllersSettled display.1 u.online u.settledTime u.error yawTolerance 500
  let g := { g with settledUtil := settled.1 }
  if settled.2 then g.patrol u else (g, none)

/-- The command after `n` updates. -/
def run (updates : ℕ → PatrolUpdate) : ℕ → GimbalPatrolCommand
  | 0 => construct
  | n + 1 => ((run updates n).updateYawPatrolTarget (updates n)).1

/-- What update `n` does with the patrol timer. -/
def action (updates : ℕ → PatrolUpdate) (n : ℕ) : Option PatrolAction :=
  ((run updates n).updateYawPatrolTarget (updates n)).2

/-! ### The index of the target -/

/-- The index is that of a target, and so is the next one. -/
structure InRange (g : GimbalPatrolCommand) : Prop where
  increment : g.patrolCoordinateIncrement = 1 ∨ g.patrolCoordinateIncrement = -1
  index : 0 ≤ g.patrolCoordinateIndex ∧ g.patrolCoordinateIndex < NUM_PATROL_LOCATIONS
  next : 0 ≤ g.patrolCoordinateIndex + g.patrolCoordinateIncrement ∧
    g.patrolCoordinateIndex + g.patrolCoordinateIncrement < NUM_PATROL_LOCATIONS

theorem inRange_construct : construct.InRange := ⟨Or.inl rfl, by decide, by decide⟩

theorem InRange.bounce {g : GimbalPatrolCommand} (h : g.InRange) : g.bounce.InRange := by
  obtain ⟨hincrement, hindex, hnext⟩ := h
  unfold NUM_PATROL_LOCATIONS at hindex hnext
  by_cases hend : g.patrolCoordinateIndex + g.patrolCoordinateIncrement = 0 ∨
      g.patrolCoordinateIndex + g.patrolCoordinateIncrement = NUM_PATROL_LOCATIONS - 1
  · have hbounce : g.bounce =
        { g with
          patrolCoordinateIndex := g.patrolCoordinateIndex + g.patrolCoordinateIncrement
          patrolCoordinateIncrement := g.patrolCoordinateIncrement * -1 } := by
      simp only [GimbalPatrolCommand.bounce, if_pos hend]
    unfold NUM_PATROL_LOCATIONS at hend
    rw [hbounce]
    constructor <;> simp only [NUM_PATROL_LOCATIONS] <;> omega
  · have hgo : g.bounce =
        { g with
          patrolCoordinateIndex := g.patrolCoordinateIndex + g.patrolCoordinateIncrement } := by
      simp only [GimbalPatrolCommand.bounce, if_neg hend]
    unfold NUM_PATROL_LOCATIONS at hend
    rw [hgo]
    constructor <;> simp only [NUM_PATROL_LOCATIONS] <;> omega

theorem InRange.patrol {g : GimbalPatrolCommand} (h : g.InRange) (u : PatrolUpdate) :
    (g.patrol u).1.InRange := by
  have hsame (t : Timeout) : { g with patrolTimer := t }.InRange :=
    ⟨h.increment, h.index, h.next⟩
  simp only [GimbalPatrolCommand.patrol]
  split_ifs
  · exact (hsame _).bounce
  · exact hsame _
  · exact hsame _

theorem InRange.updateYawPatrolTarget {g : GimbalPatrolCommand} (h : g.InRange)
    (u : PatrolUpdate) : (g.updateYawPatrolTarget u).1.InRange := by
  have hsame (s : SettledUtil) : { g with settledUtil := s }.InRange :=
    ⟨h.increment, h.index, h.next⟩
  simp only [GimbalPatrolCommand.updateYawPatrolTarget]
  split_ifs
  · exact (hsame _).patrol u
  · exact hsame _

/-- **The tables of the times are read within their bounds.** -/
theorem inRange_run (updates : ℕ → PatrolUpdate) (n : ℕ) : (run updates n).InRange := by
  induction n with
  | zero => exact inRange_construct
  | succ n ih => exact ih.updateYawPatrolTarget (updates n)

/-! ### How long the yaw error has been small -/

/-- The yaw motor is online and the error within the tolerance at update `n`. -/
def Within (updates : ℕ → PatrolUpdate) (n : ℕ) : Prop :=
  (updates n).online = true ∧ |(updates n).error| < yawTolerance

/-- The error has been within the tolerance at every update with the motor online since one that was
made at least 500 ms before update `n`. -/
def PatrolDwelled (updates : ℕ → PatrolUpdate) (n : ℕ) : Prop :=
  ∃ m ≤ n, (updates m).online = true ∧
    (updates m).settledTime.toNat + 500 ≤ (updates n).settledTime.toNat ∧
    ∀ j, m ≤ j → j ≤ n → (updates j).online = true → |(updates j).error| < yawTolerance

variable {g : GimbalPatrolCommand} {u : PatrolUpdate} {updates : ℕ → PatrolUpdate}

/-- An update that does not find the error within the tolerance leaves a stopped timer stopped, and
does nothing else. -/
theorem update_of_not_within (h : ¬ (u.online = true ∧ |u.error| < yawTolerance))
    (hstopped : g.settledUtil.errorTimer.isRunning = false) :
    (g.updateYawPatrolTarget u).2 = none ∧
      (g.updateYawPatrolTarget u).1.settledUtil.errorTimer.isRunning = false ∧
      (g.updateYawPatrolTarget u).1.patrolTimer = g.patrolTimer := by
  cases honline : u.online with
  | false => simp [updateYawPatrolTarget, allOnlineYawControllersSettled, honline, hstopped]
  | true =>
    have hout : yawTolerance ≤ |u.error| := not_lt.1 fun hin => h ⟨honline, hin⟩
    simp [updateYawPatrolTarget, allOnlineYawControllersSettled, honline,
      SettledUtil.isSettled_of_le hout, Timeout.stop]

/-- **The two questions of an update**: the first starts the timer without a timeout, and so the
second finds that it has run out. -/
theorem update_of_within (honline : u.online = true) (hin : |u.error| < yawTolerance)
    (hstopped : g.settledUtil.errorTimer.isRunning = false)
    (hidle : g.patrolTimer.isRunning = false) (htime : u.displayTime ≤ u.settledTime) :
    (g.updateYawPatrolTarget u).2 = some .starts := by
  have hdisplay : g.settledUtil.isSettled u.displayTime u.error yawTolerance (some 0) =
      (⟨g.settledUtil.errorTimer.restart u.displayTime 0⟩, false) :=
    SettledUtil.isSettled_of_stopped hin hstopped
  have hexpired : (g.settledUtil.errorTimer.restart u.displayTime 0).expireTime ≤
      u.settledTime := by
    rw [Timeout.restart, UInt32.add_zero]
    exact htime
  have hsettled : SettledUtil.isSettled ⟨g.settledUtil.errorTimer.restart u.displayTime 0⟩
        u.settledTime u.error yawTolerance (some 500) =
      (⟨g.settledUtil.errorTimer.restart u.displayTime 0⟩, true) := by
    rw [SettledUtil.isSettled_of_running hin rfl, decide_eq_true hexpired]
  simp [updateYawPatrolTarget, allOnlineYawControllersSettled, honline, hdisplay, hsettled, patrol,
    Timeout.execute, Timeout.isExpired, Timeout.isStopped, hidle]

/-- As long as the error is never within the tolerance, nothing has happened. -/
theorem run_of_not_within {n : ℕ} (h : ∀ j < n, ¬ Within updates j) :
    (run updates n).settledUtil.errorTimer.isRunning = false ∧
      (run updates n).patrolTimer = .stopped := by
  induction n with
  | zero => exact ⟨rfl, rfl⟩
  | succ n ih =>
    obtain ⟨hstopped, hidle⟩ := ih fun j hj => h j (hj.trans (Nat.lt_succ_self n))
    obtain ⟨-, hstopped', hidle'⟩ := update_of_not_within (h n (Nat.lt_succ_self n)) hstopped
    exact ⟨hstopped', hidle'.trans hidle⟩

/-- **When the patrol timer is started and executed as it should be**: only if the error is never
within the tolerance, since the first update that finds it there starts the timer. -/
theorem patrolDwelled_iff (htime : ∀ n, (updates n).displayTime ≤ (updates n).settledTime) :
    (∀ n, action updates n ≠ none → PatrolDwelled updates n) ↔ ∀ n, ¬ Within updates n := by
  constructor
  · intro h n
    induction n using Nat.strong_induction_on with
    | _ n ih =>
      intro hwithin
      obtain ⟨hstopped, hidle⟩ := run_of_not_within ih
      have haction : action updates n = some .starts :=
        update_of_within hwithin.1 hwithin.2 hstopped (by rw [hidle]; rfl) (htime n)
      obtain ⟨m, hmn, honline, hdwell, hin⟩ := h n (by rw [haction]; exact Option.some_ne_none _)
      rcases hmn.lt_or_eq with hlt | rfl
      · exact ih m hlt ⟨honline, hin m le_rfl hmn honline⟩
      · omega
  · intro h n haction
    exact absurd (update_of_not_within (h n) (run_of_not_within fun j _ => h j).1).1 haction

/-- **When the dwell times are kept**: of any sequence of calls of one `SettledUtil`, whatever the
errors are, exactly if the calls are compatible; of the updates of the patrol, only if the yaw error
is never small. -/
theorem dwelled_iff (requests : ℕ → SettleRequest) (updates : ℕ → PatrolUpdate)
    (htime : ∀ n, (updates n).displayTime ≤ (updates n).settledTime) :
    ((∀ errors n, SettledUtil.settled requests errors n = true →
        SettledUtil.Dwelled requests errors n) ↔ SettledUtil.Compatible requests) ∧
      ((∀ n, action updates n ≠ none → PatrolDwelled updates n) ↔ ∀ n, ¬ Within updates n) :=
  ⟨SettledUtil.keeps_iff requests, patrolDwelled_iff htime⟩

/-- Updates every millisecond that find no error at all. -/
def steadyUpdate (n : ℕ) : PatrolUpdate where
  online := true
  error := 0
  displayTime := .ofNat n
  settledTime := .ofNat n
  executeTime := .ofNat n
  expiredTime := .ofNat n
  restartTime := .ofNat n
  chassisState := .START

/-- The calls that an update makes, at one and the same time. -/
def updateRequest : ℕ → SettleRequest
  | 0 => ⟨0, yawTolerance, some 0⟩
  | _ => ⟨0, yawTolerance, some 500⟩

theorem dwelled_iff_steady :
    ((∀ errors n, SettledUtil.settled updateRequest errors n = true →
        SettledUtil.Dwelled updateRequest errors n) ↔ SettledUtil.Compatible updateRequest) ∧
      ((∀ n, action steadyUpdate n ≠ none → PatrolDwelled steadyUpdate n) ↔
        ∀ n, ¬ Within steadyUpdate n) :=
  dwelled_iff updateRequest steadyUpdate fun _ => UInt32.le_refl _

/-- The second call answers that the error has settled for 500 ms at the time of the first, and the
patrol timer is started at once. -/
theorem not_dwelled_steady :
    (SettledUtil.settled updateRequest (fun _ => 0) 1 = true ∧
        ¬ SettledUtil.Dwelled updateRequest (fun _ => 0) 1) ∧
      action steadyUpdate 0 = some .starts ∧ ¬ PatrolDwelled steadyUpdate 0 := by
  refine ⟨⟨by decide +kernel, ?_⟩, by decide +kernel, ?_⟩
  · rintro ⟨m, -, htime, -⟩
    cases m <;> simp [updateRequest, SettleRequest.timeout] at htime
  · rintro ⟨m, hm, -, htime, -⟩
    rw [Nat.le_zero.1 hm] at htime
    simp [steadyUpdate] at htime

end GimbalPatrolCommand

end Aimbots.Gimbal
