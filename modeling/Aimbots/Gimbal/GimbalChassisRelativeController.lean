import Aimbots.Library.PastTime
import Aimbots.TurretComms.Receiver
import Aimbots.Utils.SmoothPidWrap

/-!
# `gimbal_chassis_relative_controller.cpp`: whether the controllers have settled

There is one controller for each yaw motor and one for each pitch motor.  The question whether the
controllers of an axis have settled asks those of the motors that are online, one after the other,
and returns what the last of them answers (`settled_allOnlineControllersSettled`).

`Held` is what the settle timers of an axis know of the past: a timer that runs has found no error
out of tolerance since it was started, or since the log began, at the questions that it was asked.
-/

namespace Aimbots.Gimbal

open PastTime Tap Utils

/-- `M_TWOPI`. -/
def M_TWOPI : ℚ := 2 * TurretComms.M_PI

/-- `RPM_TO_RADPS`. -/
def RPM_TO_RADPS (x : ℚ) : ℚ := x * M_TWOPI / 60

/-- What `GimbalSubsystem` says of the motors of one axis; `setpointError` is in radians. -/
structure AxisReading (n : ℕ) where
  isMotorOnline : Fin n → Bool
  setpointError : Fin n → ℚ
  shaftRPM : Fin n → Int16

/-- `getYawMotorRPM` and `getPitchMotorRPM`. -/
def AxisReading.getMotorRPM {n : ℕ} (r : AxisReading n) (i : Fin n) : Int16 :=
  if r.isMotorOnline i then r.shaftRPM i else 0

/-! ### The controllers of one axis -/

section Axis

variable {n : ℕ} (pids : Fin n → SmoothPID) (r : AxisReading n) (now : UInt32)

/-- The loop of `runYawController` and of `runPitchController`. -/
def runControllers : Fin n → SmoothPID :=
  fun i => (pids i).runController now (r.setpointError i) (RPM_TO_RADPS (r.getMotorRPM i).toInt)

/-- The body of the loop of `allOnlineYawControllersSettled` and of
`allOnlinePitchControllersSettled`; the second component is `controllersSettled`. -/
def askController (errTolerance : ℚ) (errTimeout : UInt32) (l : (Fin n → SmoothPID) × Bool)
    (i : Fin n) : (Fin n → SmoothPID) × Bool :=
  if r.isMotorOnline i then
    let answer := (l.1 i).isSettled now errTolerance (some errTimeout)
    (Function.update l.1 i answer.1, answer.2)
  else l

/-- `allOnlineYawControllersSettled` and `allOnlinePitchControllersSettled`. -/
def allOnlineControllersSettled (errTolerance : ℚ) (errTimeout : UInt32) :
    (Fin n → SmoothPID) × Bool :=
  (List.finRange n).foldl (askController r now errTolerance errTimeout) (pids, false)

/-- The last motor that is online. -/
def AxisReading.lastOnline : Option (Fin n) :=
  ((List.finRange n).filter r.isMotorOnline).getLast?

variable {pids r now} {errTolerance : ℚ} {errTimeout : UInt32}

/-- **The loop**: the controller of each motor that is online is asked once, as it was before the
loop, and the answer of the last one is left. -/
theorem foldl_askController {motors : List (Fin n)} (h : motors.Nodup) (settled : Bool) :
    (∀ i, (motors.foldl (askController r now errTolerance errTimeout) (pids, settled)).1 i =
      if i ∈ motors ∧ r.isMotorOnline i = true then
        ((pids i).isSettled now errTolerance (some errTimeout)).1
      else pids i) ∧
    (motors.foldl (askController r now errTolerance errTimeout) (pids, settled)).2 =
      match (motors.filter r.isMotorOnline).getLast? with
      | none => settled
      | some i => ((pids i).isSettled now errTolerance (some errTimeout)).2 := by
  induction motors using List.reverseRecOn with
  | nil => simp
  | append_singleton motors j ih =>
    obtain ⟨hmotors, -, hj⟩ := List.nodup_append.1 h
    have hnot : j ∉ motors := fun hmem => hj j hmem j (List.mem_singleton_self j) rfl
    obtain ⟨hpids, hsettled⟩ := ih hmotors
    rw [List.foldl_append, List.foldl_cons, List.foldl_nil, List.filter_append]
    cases honline : r.isMotorOnline j with
    | false =>
      rw [askController, honline, if_neg Bool.false_ne_true]
      refine ⟨fun i => ?_, by simpa [honline] using hsettled⟩
      rw [hpids i]
      by_cases hij : i = j
      · simp [hij, honline]
      · simp [hij]
    | true =>
      have hask := hpids j
      rw [if_neg fun hmem => hnot hmem.1] at hask
      rw [askController, honline, if_pos rfl, hask]
      refine ⟨fun i => ?_, by simp [honline]⟩
      by_cases hij : i = j
      · subst hij
        simp [honline]
      · simp [hij, hpids i]

theorem pids_allOnlineControllersSettled (i : Fin n) :
    (allOnlineControllersSettled pids r now errTolerance errTimeout).1 i =
      if r.isMotorOnline i then ((pids i).isSettled now errTolerance (some errTimeout)).1
      else pids i := by
  rw [allOnlineControllersSettled, (foldl_askController (List.nodup_finRange n) false).1]
  simp

/-- The controllers of an axis have settled if the last motor that is online has. -/
theorem settled_allOnlineControllersSettled :
    (allOnlineControllersSettled pids r now errTolerance errTimeout).2 = true ↔
      ∃ i, r.lastOnline = some i ∧
        ((pids i).isSettled now errTolerance (some errTimeout)).2 = true := by
  rw [allOnlineControllersSettled, (foldl_askController (List.nodup_finRange n) false).2,
    AxisReading.lastOnline]
  cases ((List.finRange n).filter r.isMotorOnline).getLast? <;> simp

/-- The controllers, asked right after they have run, have settled if the error of the last motor
that is online is within tolerance and its settle timer has run out. -/
theorem settled_runControllers :
    (allOnlineControllersSettled (runControllers pids r now) r now errTolerance errTimeout).2 =
      true ↔
      ∃ i, r.lastOnline = some i ∧ |r.setpointError i| < errTolerance ∧
        (pids i).settledUtil.errorTimer.isExpired now = true := by
  rw [settled_allOnlineControllersSettled]
  exact exists_congr fun i => and_congr_right fun _ => SettledUtil.isSettled_iff

end Axis

/-! ### What the settle timers know -/

/-- An execute as an axis sees it: what the motors read, and whether their controllers are asked. -/
structure AxisPoll (n : ℕ) where
  now : UInt32
  reading : AxisReading n
  asks : Bool

namespace AxisPoll

variable {n : ℕ} (a : AxisPoll n) (errTolerance : ℚ) (errTimeout : UInt32)

/-- The controller of the motor is asked. -/
def Asks (i : Fin n) : Prop := a.asks = true ∧ a.reading.isMotorOnline i = true

/-- The error of the motor is within tolerance. -/
def Within (i : Fin n) : Prop := |a.reading.setpointError i| < errTolerance

/-- The errors of all motors that are online are within tolerance. -/
def Still : Prop := ∀ i, a.reading.isMotorOnline i = true → a.Within errTolerance i

/-- Some motor that is online is out of tolerance, and it is not motor `decider`, or its controller
is not asked. -/
def Overlooks (decider : Option (Fin n)) : Prop :=
  ∃ i, a.reading.isMotorOnline i = true ∧ errTolerance ≤ |a.reading.setpointError i| ∧
    (a.asks = true → decider ≠ some i)

instance (i : Fin n) : Decidable (a.Asks i) := by unfold Asks; infer_instance

instance (i : Fin n) : Decidable (a.Within errTolerance i) := by unfold Within; infer_instance

instance : Decidable (a.Still errTolerance) := by unfold Still; infer_instance

instance (decider : Option (Fin n)) : Decidable (a.Overlooks errTolerance decider) := by
  unfold Overlooks; infer_instance

/-- An axis is still if it overlooks nothing and the controller of the deciding motor, if it is
asked, finds no error. -/
theorem still_iff (decider : Option (Fin n)) : a.Still errTolerance ↔
    ¬ a.Overlooks errTolerance decider ∧ ∀ i ∈ decider, a.Asks i → a.Within errTolerance i := by
  constructor
  · intro h
    refine ⟨?_, fun i _ hasks => h i hasks.2⟩
    rintro ⟨i, honline, hout, -⟩
    exact absurd (h i honline) (not_lt.2 hout)
  · rintro ⟨hseen, hwithin⟩ i honline
    by_contra hout
    refine hseen ⟨i, honline, not_lt.1 hout, fun hasks hi => ?_⟩
    exact hout (hwithin i hi ⟨hasks, honline⟩)

/-- The settle timers after the execute. -/
def settle (s : Fin n → SettledUtil) (i : Fin n) : SettledUtil :=
  if a.Asks i then
    ((s i).isSettled a.now (a.reading.setpointError i) errTolerance (some errTimeout)).1
  else s i

theorem settle_of_not_asks {a : AxisPoll n} {errTolerance : ℚ} {errTimeout : UInt32}
    (h : a.asks = false) (s : Fin n → SettledUtil) :
    a.settle errTolerance errTimeout s = s := by
  funext i
  exact if_neg fun hasks => Bool.false_ne_true (h.symm.trans hasks.1)

end AxisPoll

/-- The settle timers of controllers that are asked right after they have run. -/
theorem settledUtil_runControllers {n : ℕ} {pids : Fin n → SmoothPID} {a : AxisPoll n}
    (h : a.asks = true) (errTolerance : ℚ) (errTimeout : UInt32) :
    (fun i => ((allOnlineControllersSettled (runControllers pids a.reading a.now) a.reading a.now
        errTolerance errTimeout).1 i).settledUtil) =
      a.settle errTolerance errTimeout fun i => (pids i).settledUtil := by
  funext i
  rw [pids_allOnlineControllersSettled, AxisPoll.settle]
  by_cases honline : a.reading.isMotorOnline i = true
  · rw [if_pos honline, if_pos (show a.Asks i from ⟨h, honline⟩)]
    rfl
  · rw [if_neg honline, if_neg fun hasks : a.Asks i => honline hasks.2]
    rfl

variable {n : ℕ} {s : Fin n → SettledUtil} {errTolerance : ℚ} {errTimeout : UInt32}
  {polls : List (AxisPoll n)}

/-- The motor, unless its settle timer was started so shortly before the clock overflows that it
runs out at once. -/
def decider (s : Fin n → SettledUtil) (errTimeout : UInt32) (i : Fin n) : Option (Fin n) :=
  if errTimeout ≤ (s i).errorTimer.expireTime then some i else none

/-- **What a timer that runs knows**, if the clock did not overflow when it was started: back to an
execute that is at least the timeout older than the time at which it runs out, or to the beginning,
it was asked about no error out of tolerance. -/
def Held (s : Fin n → SettledUtil) (errTolerance : ℚ) (errTimeout : UInt32)
    (polls : List (AxisPoll n)) : Prop :=
  ∀ i, (s i).errorTimer.isRunning = true → errTimeout ≤ (s i).errorTimer.expireTime →
    WeakSince (fun a => a.Asks i → a.Within errTolerance i)
      (fun a => a.now.toNat + errTimeout.toNat ≤ (s i).errorTimer.expireTime.toNat) polls

theorem held_nil : Held s errTolerance errTimeout [] := fun _ _ _ => trivial

/-- An execute keeps what the timers know. -/
theorem Held.settle (h : Held s errTolerance errTimeout polls) (a : AxisPoll n) :
    Held (a.settle errTolerance errTimeout s) errTolerance errTimeout (a :: polls) := by
  intro i hrunning hexpire
  rw [AxisPoll.settle] at hrunning hexpire ⊢
  by_cases hasks : a.Asks i
  · rw [if_pos hasks] at hrunning hexpire ⊢
    obtain ⟨hwithin, ⟨hran, hsame⟩ | hstart⟩ := SettledUtil.isSettled_running hrunning
    · rw [hsame] at hexpire ⊢
      exact ⟨fun _ => hwithin, Or.inr (h i hran hexpire)⟩
    · rw [hstart] at hexpire ⊢
      exact ⟨fun _ => hwithin, Or.inl (Timeout.toNat_add_of_le hexpire).ge⟩
  · rw [if_neg hasks] at hrunning hexpire ⊢
    exact ⟨fun hask => absurd hask hasks, Or.inr (h i hrunning hexpire)⟩

/-- What the timer of a deciding motor knows once it has run out. -/
theorem Held.of_isExpired (h : Held s errTolerance errTimeout polls) {i : Fin n} {now : UInt32}
    (hexpired : (s i).errorTimer.isExpired now = true) :
    WeakSince (fun a => ∀ j ∈ decider s errTimeout i, a.Asks j → a.Within errTolerance j)
      (fun a => a.now.toNat + errTimeout.toNat ≤ now.toNat) polls := by
  obtain ⟨hrunning, hle⟩ := Timeout.isExpired_iff.1 hexpired
  by_cases hexpire : errTimeout ≤ (s i).errorTimer.expireTime
  · refine (h i hrunning hexpire).mono (fun a ha j hj => ?_) fun _ hfar =>
      hfar.trans (UInt32.le_iff_toNat_le.1 hle)
    rw [decider, if_pos hexpire, Option.mem_some_iff] at hj
    exact hj ▸ ha
  · rw [decider, if_neg hexpire]
    exact weakSince_of_forall fun _ _ hj => nomatch hj

/-- A deciding motor is the one that it is the decider of. -/
theorem eq_of_mem_decider {i j : Fin n} (h : j ∈ decider s errTimeout i) : j = i := by
  unfold decider at h
  split_ifs at h
  · exact (Option.mem_some_iff.1 h).symm
  · cases h

/-! ### The two axes -/

/-- The data members of `GimbalChassisRelativeController`, for `m = YAW_MOTOR_COUNT` and
`n = PITCH_MOTOR_COUNT`. -/
structure GimbalChassisRelativeController (m n : ℕ) where
  yawPositionPIDs : Fin m → SmoothPID
  pitchPositionPIDs : Fin n → SmoothPID

/-- The setters of `GimbalSubsystem`; the angles are in radians. -/
inductive GimbalCall (m n : ℕ)
  | setTargetYawAxisAngle (angle : ℚ)
  | setTargetPitchAxisAngle (angle : ℚ)
  | setDesiredYawMotorOutput (YawIdx : Fin m) (output : ℚ)
  | setDesiredPitchMotorOutput (PitchIdx : Fin n) (output : ℚ)
  | setAllDesiredYawMotorOutputs (output : ℚ)
  | setAllDesiredPitchMotorOutputs (output : ℚ)

namespace GimbalChassisRelativeController

variable {m n : ℕ} (g : GimbalChassisRelativeController m n) (now : UInt32)

/-- The constructor, of controllers as `BuildPIDControllers` makes them. -/
def construct (yaw : Fin m → SmoothPIDWrapper) (pitch : Fin n → SmoothPIDWrapper) :
    GimbalChassisRelativeController m n where
  yawPositionPIDs i := .construct (yaw i)
  pitchPositionPIDs i := .construct (pitch i)

/-- `runYawController`. -/
def runYawController (r : AxisReading m) :
    GimbalChassisRelativeController m n × List (GimbalCall m n) :=
  let yawPositionPIDs := runControllers g.yawPositionPIDs r now
  ({ g with yawPositionPIDs },
    (List.finRange m).map fun i => .setDesiredYawMotorOutput i (yawPositionPIDs i).getOutput)

/-- `runPitchController`. -/
def runPitchController (r : AxisReading n) :
    GimbalChassisRelativeController m n × List (GimbalCall m n) :=
  let pitchPositionPIDs := runControllers g.pitchPositionPIDs r now
  ({ g with pitchPositionPIDs },
    (List.finRange n).map fun i => .setDesiredPitchMotorOutput i (pitchPositionPIDs i).getOutput)

/-- `allOnlineYawControllersSettled`. -/
def allOnlineYawControllersSettled (r : AxisReading m) (errTolerance : ℚ) (errTimeout : UInt32) :
    GimbalChassisRelativeController m n × Bool :=
  let asked := allOnlineControllersSettled g.yawPositionPIDs r now errTolerance errTimeout
  ({ g with yawPositionPIDs := asked.1 }, asked.2)

/-- `allOnlinePitchControllersSettled`. -/
def allOnlinePitchControllersSettled (r : AxisReading n) (errTolerance : ℚ) (errTimeout : UInt32) :
    GimbalChassisRelativeController m n × Bool :=
  let asked := allOnlineControllersSettled g.pitchPositionPIDs r now errTolerance errTimeout
  ({ g with pitchPositionPIDs := asked.1 }, asked.2)

/-- The settle timers of the yaw motors. -/
def yawSettledUtils (i : Fin m) : SettledUtil := (g.yawPositionPIDs i).settledUtil

/-- The settle timers of the pitch motors. -/
def pitchSettledUtils (i : Fin n) : SettledUtil := (g.pitchPositionPIDs i).settledUtil

end GimbalChassisRelativeController

end Aimbots.Gimbal
