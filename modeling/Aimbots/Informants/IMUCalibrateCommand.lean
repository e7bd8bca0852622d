import Aimbots.Gimbal.GimbalChassisRelativeController
import Aimbots.Library.Run

/-!
# `calibrate_imu_command.cpp`: recalibrating at rest

The command waits for the gimbal, for the chassis to stand and for the turret to hold still, and
then asks for a recalibration of the IMU.  That the turret holds still is what the settle timers of
its controllers say, and these are asked only while the turret is being locked; those of the pitch
motors only when the yaw controllers have settled.  `initialize` does not reset them.

`recalibrated_at_rest_iff` says what must not happen where the timers do not look.
-/

namespace Aimbots.Informants

open Gimbal PastTime Run Tap Utils

/-- `CalibrationState`. -/
inductive CalibrationState
  | WAITING_FOR_SYSTEMS_ONLINE
  | LOCKING_CHASSIS
  | LOCKING_TURRET
  | CALIBRATING_IMU
  | WAITING_CALIBRATION_COMPLETE
  | DONE
deriving DecidableEq, Repr

/-- `ImuInterface::ImuState`. -/
inductive ImuState
  | IMU_NOT_CONNECTED
  | IMU_NOT_CALIBRATED
  | IMU_CALIBRATING
  | IMU_CALIBRATED
deriving DecidableEq, Repr

/-- `MAXIMUM_CALIBRATION_TIME`. -/
def MAXIMUM_CALIBRATION_TIME : UInt32 := 5000

/-- `WAIT_EXTRA_TIME`. -/
def WAIT_EXTRA_TIME : UInt32 := 1000

/-- The tolerance of the controllers, `modm::toRadian(1.0f)`. -/
def settleTolerance : ℚ := 1 * TurretComms.M_PI / 180

/-- The timeout of the controllers. -/
def settleTimeout : UInt32 := 1000

/-- What a robot is built with: whether `TURRET_IMU` is defined, and the `CIMU_CALIBRATION_EULER`
angles.  A robot with a chassis does not define `TARGET_TURRET`. -/
structure CalibrateBuild where
  TURRET_IMU : Bool
  CIMU_CALIBRATION_EULER : ℚ × ℚ × ℚ

/-- What an `execute` reads; the clock is read once. -/
structure CalibrateReading (m n : ℕ) where
  now : UInt32
  yaw : AxisReading m
  pitch : AxisReading n
  chassisVelocity : ℚ × ℚ × ℚ
  imuState : ImuState

/-- `GimbalSubsystem::isOnline`. -/
def CalibrateReading.isOnline {m n : ℕ} (r : CalibrateReading m n) : Bool :=
  (List.finRange m).any r.yaw.isMotorOnline && (List.finRange n).any r.pitch.isMotorOnline

/-- What the command calls. -/
inductive CalibrateCall (m n : ℕ)
  | gimbal (call : GimbalCall m n)
  | setTargetRPMs (x y r : ℚ)
  | requestTurretIMUCalibrate
  | recalibrateIMU (imuCalibrationEuler : ℚ × ℚ × ℚ)
  | setLed (isSet : Bool)

/-- A call that asks for a recalibration. -/
def CalibrateCall.recalibrates {m n : ℕ} : CalibrateCall m n → Bool
  | .requestTurretIMUCalibrate | .recalibrateIMU _ => true
  | .gimbal _ | .setTargetRPMs .. | .setLed _ => false

/-- The data members of `IMUCalibrateCommand`. -/
structure IMUCalibrateCommand (m n : ℕ) where
  calibrationState : CalibrationState
  gimbalController : GimbalChassisRelativeController m n
  extraCalibrationWaitTimer : Timeout
  maximumCalibrationTimer : Timeout

namespace IMUCalibrateCommand

variable {m n : ℕ} (b : CalibrateBuild) (c : IMUCalibrateCommand m n) (r : CalibrateReading m n)

/-- The constructor; `calibrationState` is not initialised. -/
def construct (calibrationState : CalibrationState)
    (gimbalController : GimbalChassisRelativeController m n) : IMUCalibrateCommand m n where
  calibrationState
  gimbalController
  extraCalibrationWaitTimer := .stopped
  maximumCalibrationTimer := .stopped

/-- `initialize`. -/
def init : IMUCalibrateCommand m n × List (CalibrateCall m n) :=
  ({ c with
      calibrationState := .WAITING_FOR_SYSTEMS_ONLINE
      maximumCalibrationTimer := c.maximumCalibrationTimer.stop },
    [.gimbal (.setTargetYawAxisAngle 0), .gimbal (.setTargetPitchAxisAngle 0),
      .setTargetRPMs 0 0 0])

/-- The requests for a recalibration. -/
def recalibrate : List (CalibrateCall m n) :=
  (if b.TURRET_IMU then [.requestTurretIMUCalibrate] else []) ++
    [.recalibrateIMU b.CIMU_CALIBRATION_EULER]

/-- The controllers of both axes run. -/
def runControllers : GimbalChassisRelativeController m n × List (CalibrateCall m n) :=
  let yaw := c.gimbalController.runYawController r.now r.yaw
  let pitch := yaw.1.runPitchController r.now r.pitch
  (pitch.1, (yaw.2 ++ pitch.2).map .gimbal)

/-- The question of `execute` whether the turret is still, `allOnlineYawControllersSettled(...) &&
allOnlinePitchControllersSettled(...)`: the pitch controllers are asked only if the yaw controllers
have settled. -/
def askControllers (g : GimbalChassisRelativeController m n) (r : CalibrateReading m n) :
    GimbalChassisRelativeController m n × Bool :=
  let yaw := g.allOnlineYawControllersSettled r.now r.yaw settleTolerance settleTimeout
  if yaw.2 then
    yaw.1.allOnlinePitchControllersSettled r.now r.pitch settleTolerance settleTimeout
  else (yaw.1, false)

/-- `execute` in `LOCKING_TURRET`. -/
def lockTurret : IMUCalibrateCommand m n × List (CalibrateCall m n) :=
  let run := c.runControllers r
  let asked := askControllers run.1 r
  let c := { c with gimbalController := asked.1 }
  if asked.2 then ({ c with calibrationState := .CALIBRATING_IMU }, run.2 ++ recalibrate b)
  else (c, run.2)

/-- `execute`. -/
def execute : IMUCalibrateCommand m n × List (CalibrateCall m n) :=
  match c.calibrationState with
  | .WAITING_FOR_SYSTEMS_ONLINE =>
    (if r.isOnline then
      { c with
        calibrationState := .LOCKING_CHASSIS
        maximumCalibrationTimer :=
          c.maximumCalibrationTimer.restart r.now MAXIMUM_CALIBRATION_TIME }
    else c, [])
  | .LOCKING_CHASSIS =>
    let (x, y, z) := r.chassisVelocity
    (if |x| < 1 / 100 ∧ |y| < 1 / 100 ∧ |z| < 1 / 100 then
      { c with calibrationState := .LOCKING_TURRET }
    else c, [])
  | .LOCKING_TURRET => c.lockTurret b r
  | .CALIBRATING_IMU =>
    (if r.imuState = .IMU_CALIBRATED then
      { c with
        calibrationState := .WAITING_CALIBRATION_COMPLETE
        extraCalibrationWaitTimer := c.extraCalibrationWaitTimer.restart r.now WAIT_EXTRA_TIME }
    else c, [])
  | .WAITING_CALIBRATION_COMPLETE =>
    (if c.extraCalibrationWaitTimer.isExpired r.now
      then { c with calibrationState := .DONE } else c,
      [])
  | .DONE => (c, [.setLed true])

/-- `end`. -/
def finish : IMUCalibrateCommand m n × List (CalibrateCall m n) :=
  (c, [.gimbal (.setAllDesiredPitchMotorOutputs 0), .gimbal (.setAllDesiredYawMotorOutputs 0),
    .setTargetRPMs 0 0 0])

/-- `isFinished`. -/
def isFinished (now : UInt32) : Bool :=
  decide (c.calibrationState = .DONE) || c.maximumCalibrationTimer.isExpired now

/-! ### What an execute asks of the settle timers -/

/-- The last yaw motor that is online is within tolerance, and its settle timer has run out. -/
def YawSettles (i : Fin m) : Prop :=
  r.yaw.lastOnline = some i ∧ |r.yaw.setpointError i| < settleTolerance ∧
    (c.gimbalController.yawSettledUtils i).errorTimer.isExpired r.now = true

/-- The last pitch motor that is online is within tolerance, and its settle timer has run out. -/
def PitchSettles (i : Fin n) : Prop :=
  r.pitch.lastOnline = some i ∧ |r.pitch.setpointError i| < settleTolerance ∧
    (c.gimbalController.pitchSettledUtils i).errorTimer.isExpired r.now = true

instance (i : Fin m) : Decidable (c.YawSettles r i) := by unfold YawSettles; infer_instance

instance (i : Fin n) : Decidable (c.PitchSettles r i) := by unfold PitchSettles; infer_instance

/-- The execute as the yaw axis sees it. -/
def yawPoll : AxisPoll m where
  now := r.now
  reading := r.yaw
  asks := decide (c.calibrationState = .LOCKING_TURRET)

/-- The execute as the pitch axis sees it. -/
def pitchPoll : AxisPoll n where
  now := r.now
  reading := r.pitch
  asks := decide (c.calibrationState = .LOCKING_TURRET ∧ ∃ i, c.YawSettles r i)

/-- The execute asks for a recalibration. -/
def Recalibrates : Prop := (c.execute b r).2.any CalibrateCall.recalibrates = true

instance : Decidable (c.Recalibrates b r) := by unfold Recalibrates; infer_instance

variable {b c r}

/-- Outside `LOCKING_TURRET` the controllers are left alone. -/
theorem execute_of_ne (h : c.calibrationState ≠ .LOCKING_TURRET) :
    (c.execute b r).1.gimbalController = c.gimbalController ∧ ¬ c.Recalibrates b r := by
  unfold Recalibrates execute
  cases hstate : c.calibrationState with
  | LOCKING_TURRET => exact absurd hstate h
  | WAITING_FOR_SYSTEMS_ONLINE => exact ⟨by dsimp only; split_ifs <;> rfl, Bool.false_ne_true⟩
  | LOCKING_CHASSIS => exact ⟨by dsimp only; split_ifs <;> rfl, Bool.false_ne_true⟩
  | CALIBRATING_IMU => exact ⟨by dsimp only; split_ifs <;> rfl, Bool.false_ne_true⟩
  | WAITING_CALIBRATION_COMPLETE => exact ⟨by dsimp only; split_ifs <;> rfl, Bool.false_ne_true⟩
  | DONE => exact ⟨rfl, Bool.false_ne_true⟩

/-- The controllers' calls ask for no recalibration. -/
theorem any_recalibrates_gimbal (calls : List (GimbalCall m n)) :
    (calls.map CalibrateCall.gimbal).any CalibrateCall.recalibrates = false := by
  induction calls with
  | nil => rfl
  | cons call calls ih => exact ih

theorem lockTurret_cases :
    (c.lockTurret b r).1.gimbalController = (askControllers (c.runControllers r).1 r).1 ∧
      (c.lockTurret b r).2.any CalibrateCall.recalibrates =
        (askControllers (c.runControllers r).1 r).2 := by
  have hrun : (c.runControllers r).2.any CalibrateCall.recalibrates = false :=
    any_recalibrates_gimbal _
  unfold lockTurret
  dsimp only
  split_ifs with hasked
  · refine ⟨rfl, ?_⟩
    rw [List.any_append, hrun, hasked]
    simp [recalibrate, CalibrateCall.recalibrates]
  · exact ⟨rfl, hrun.trans (Bool.eq_false_of_not_eq_true hasked).symm⟩

/-- **What the questions do** in `LOCKING_TURRET`: the yaw controllers are asked, the pitch
controllers if those have settled, and the turret is still if these have settled too. -/
theorem askControllers_cases (h : c.calibrationState = .LOCKING_TURRET) :
    (askControllers (c.runControllers r).1 r).1.yawSettledUtils =
        (c.yawPoll r).settle settleTolerance settleTimeout c.gimbalController.yawSettledUtils ∧
      (askControllers (c.runControllers r).1 r).1.pitchSettledUtils =
        (c.pitchPoll r).settle settleTolerance settleTimeout c.gimbalController.pitchSettledUtils ∧
      ((askControllers (c.runControllers r).1 r).2 = true ↔
        (∃ i, c.YawSettles r i) ∧ ∃ i, c.PitchSettles r i) := by
  have hyaws : ((c.runControllers r).1.allOnlineYawControllersSettled r.now r.yaw settleTolerance
      settleTimeout).2 = true ↔ ∃ i, c.YawSettles r i :=
    settled_runControllers
  have hyawUtils := @settledUtil_runControllers _ c.gimbalController.yawPositionPIDs (c.yawPoll r)
    (decide_eq_true h) settleTolerance settleTimeout
  unfold askControllers
  dsimp only
  by_cases hyaw : ∃ i, c.YawSettles r i
  · have hpitchUtils := @settledUtil_runControllers _ c.gimbalController.pitchPositionPIDs
      (c.pitchPoll r) (decide_eq_true ⟨h, hyaw⟩) settleTolerance settleTimeout
    rw [if_pos (hyaws.2 hyaw), and_iff_right hyaw]
    exact ⟨hyawUtils, hpitchUtils, settled_runControllers⟩
  · have hpitch : (c.pitchPoll r).asks = false := decide_eq_false fun hasks => hyaw hasks.2
    rw [if_neg (mt hyaws.1 hyaw), AxisPoll.settle_of_not_asks hpitch]
    exact ⟨hyawUtils, rfl, iff_of_false Bool.false_ne_true fun hboth => hyaw hboth.1⟩

/-- **What an execute does to the settle timers** is what the polls of the two axes say. -/
theorem settledUtils_execute :
    (c.execute b r).1.gimbalController.yawSettledUtils =
        (c.yawPoll r).settle settleTolerance settleTimeout c.gimbalController.yawSettledUtils ∧
      (c.execute b r).1.gimbalController.pitchSettledUtils =
        (c.pitchPoll r).settle settleTolerance settleTimeout
          c.gimbalController.pitchSettledUtils := by
  by_cases h : c.calibrationState = .LOCKING_TURRET
  · have hlock : c.execute b r = c.lockTurret b r := by rw [execute, h]
    obtain ⟨hyaw, hpitch, -⟩ := @askControllers_cases _ _ c r h
    rw [hlock, lockTurret_cases.1]
    exact ⟨hyaw, hpitch⟩
  · have hyaw : (c.yawPoll r).asks = false := decide_eq_false h
    have hpitch : (c.pitchPoll r).asks = false := decide_eq_false fun hasks => h hasks.1
    rw [(execute_of_ne h).1, AxisPoll.settle_of_not_asks hyaw, AxisPoll.settle_of_not_asks hpitch]
    exact ⟨rfl, rfl⟩

/-- **When an execute asks for a recalibration.** -/
theorem recalibrates_iff : c.Recalibrates b r ↔ c.calibrationState = .LOCKING_TURRET ∧
    (∃ i, c.YawSettles r i) ∧ ∃ i, c.PitchSettles r i := by
  by_cases h : c.calibrationState = .LOCKING_TURRET
  · have hlock : c.execute b r = c.lockTurret b r := by rw [execute, h]
    rw [Recalibrates, hlock, lockTurret_cases.2, (askControllers_cases h).2.2, and_iff_right h]
  · exact iff_of_false (execute_of_ne h).2 fun hlocking => h hlocking.1

end IMUCalibrateCommand

open IMUCalibrateCommand

/-! ### Runs -/

/-- A call that reaches the command. -/
inductive CalibrateEvent (m n : ℕ)
  | init
  | execute (r : CalibrateReading m n)
  | finish

/-- An execute: the command before it, and what it reads. -/
structure Execution (m n : ℕ) where
  command : IMUCalibrateCommand m n
  reading : CalibrateReading m n

namespace Execution

variable {m n : ℕ} (x : Execution m n)

/-- The execute as the yaw axis sees it. -/
def yawPoll : AxisPoll m := x.command.yawPoll x.reading

/-- The execute as the pitch axis sees it. -/
def pitchPoll : AxisPoll n := x.command.pitchPoll x.reading

/-- **The turret is still**: every yaw motor and every pitch motor that is online is within 1 degree
of its target. -/
def Still : Prop := x.yawPoll.Still settleTolerance ∧ x.pitchPoll.Still settleTolerance

/-- There is an error of a motor that is online, other than `yaw` and `pitch`, or of one of these
while its controller is not asked. -/
def Overlooks (yaw : Option (Fin m)) (pitch : Option (Fin n)) : Prop :=
  x.yawPoll.Overlooks settleTolerance yaw ∨ x.pitchPoll.Overlooks settleTolerance pitch

/-- The execute is at least `settleTimeout` before `now`. -/
def Before (now : UInt32) : Prop := x.reading.now.toNat + settleTimeout.toNat ≤ now.toNat

instance : Decidable x.Still := by unfold Still; infer_instance

instance (yaw : Option (Fin m)) (pitch : Option (Fin n)) : Decidable (x.Overlooks yaw pitch) := by
  unfold Overlooks; infer_instance

instance (now : UInt32) : Decidable (x.Before now) := by unfold Before; infer_instance

end Execution

/-- The command and the executes since the last `initialize`, the last one first. -/
structure CalibrateRun (m n : ℕ) where
  command : IMUCalibrateCommand m n
  log : List (Execution m n)

namespace CalibrateRun

variable {m n : ℕ} (b : CalibrateBuild)

/-- One call. -/
def next (run : CalibrateRun m n) : CalibrateEvent m n → CalibrateRun m n
  | .init => ⟨run.command.init.1, []⟩
  | .execute r => ⟨(run.command.execute b r).1, ⟨run.command, r⟩ :: run.log⟩
  | .finish => { run with command := run.command.finish.1 }

/-- A recalibration is asked for only if the turret has been still for `settleTimeout`, at all
executes of the activation back to one that is so long ago. -/
def RecalibratesStill (run : CalibrateRun m n) : CalibrateEvent m n → Prop
  | .execute r => run.command.Recalibrates b r →
    Since Execution.Still (fun x => x.Before r.now) (⟨run.command, r⟩ :: run.log)
  | .init | .finish => True

/-- In `LOCKING_TURRET`, if the settle timers of the last motors that are online have run out on
both axes and their errors are within tolerance: nothing but what these timers were asked about has
been overlooked for `settleTimeout`, at all executes of the activation back to one that is so long
ago. -/
def OverlooksNothing (run : CalibrateRun m n) : CalibrateEvent m n → Prop
  | .execute r => run.command.calibrationState = .LOCKING_TURRET →
    ∀ yaw pitch, run.command.YawSettles r yaw → run.command.PitchSettles r pitch →
      Since
        (fun x => ¬ x.Overlooks (decider run.command.gimbalController.yawSettledUtils
          settleTimeout yaw)
          (decider run.command.gimbalController.pitchSettledUtils settleTimeout pitch))
        (fun x => x.Before r.now) (⟨run.command, r⟩ :: run.log)
  | .init | .finish => True

instance (run : CalibrateRun m n) : ∀ e, Decidable (run.RecalibratesStill b e)
  | .execute r => inferInstanceAs (Decidable (run.command.Recalibrates b r →
      Since Execution.Still (fun x => x.Before r.now) (⟨run.command, r⟩ :: run.log)))
  | .init | .finish => isTrue trivial

/-- What the settle timers know of the executes of the activation. -/
structure Inv (run : CalibrateRun m n) : Prop where
  yaw : Held run.command.gimbalController.yawSettledUtils settleTolerance settleTimeout
    (run.log.map Execution.yawPoll)
  pitch : Held run.command.gimbalController.pitchSettledUtils settleTolerance settleTimeout
    (run.log.map Execution.pitchPoll)

variable {b} {run : CalibrateRun m n}

/-- Before the first execute of an activation there is nothing to know. -/
theorem inv_nil (c : IMUCalibrateCommand m n) : Inv ⟨c, []⟩ := ⟨held_nil, held_nil⟩

/-- Every call keeps what the timers know. -/
theorem Inv.next (h : run.Inv) (e : CalibrateEvent m n) : (run.next b e).Inv := by
  cases e with
  | init => exact inv_nil _
  | execute r =>
    obtain ⟨hyaw, hpitch⟩ := @settledUtils_execute _ _ b run.command r
    constructor
    · show Held (run.command.execute b r).1.gimbalController.yawSettledUtils _ _ _
      rw [hyaw]
      exact h.yaw.settle _
    · show Held (run.command.execute b r).1.gimbalController.pitchSettledUtils _ _ _
      rw [hpitch]
      exact h.pitch.settle _
  | finish => exact h

/-- **One call**: the request is made at rest exactly if nothing has been overlooked. -/
theorem Inv.recalibratesStill_iff (h : run.Inv) {e : CalibrateEvent m n} :
    run.RecalibratesStill b e ↔ run.OverlooksNothing e := by
  cases e with
  | init => exact Iff.rfl
  | finish => exact Iff.rfl
  | execute r =>
    constructor
    · intro hstill hlocking yaw pitch hyaw hpitch
      refine (hstill (recalibrates_iff.2 ⟨hlocking, ⟨yaw, hyaw⟩, pitch, hpitch⟩)).mono fun x hx =>
        ?_
      exact not_or.2 ⟨((AxisPoll.still_iff _ _ _).1 hx.1).1, ((AxisPoll.still_iff _ _ _).1 hx.2).1⟩
    · intro hseen hrecalibrates
      obtain ⟨hlocking, ⟨yaw, hyaw⟩, pitch, hpitch⟩ := recalibrates_iff.1 hrecalibrates
      have hknown := (weakSince_map Execution.yawPoll run.log).1 (h.yaw.of_isExpired hyaw.2.2)
      have hknown' :=
        (weakSince_map Execution.pitchPoll run.log).1 (h.pitch.of_isExpired hpitch.2.2)
      -- this execute finds the deciding motors within tolerance
      have hall := ((hseen hlocking yaw pitch hyaw hpitch).and_weak
        (weakSince_cons.2 ⟨fun i hi _ => eq_of_mem_decider hi ▸ hyaw.2.1, Or.inr hknown⟩)).and_weak
        (weakSince_cons.2 ⟨fun i hi _ => eq_of_mem_decider hi ▸ hpitch.2.1, Or.inr hknown'⟩)
      refine hall.mono fun x hx => ?_
      obtain ⟨⟨hover, hyawx⟩, hpitchx⟩ := hx
      obtain ⟨hover, hover'⟩ := not_or.1 hover
      exact ⟨(AxisPoll.still_iff _ _ _).2 ⟨hover, hyawx⟩,
        (AxisPoll.still_iff _ _ _).2 ⟨hover', hpitchx⟩⟩

/-- **When the IMU is recalibrated only at rest**: in every run, from any command, every request for
a recalibration is made after the turret has been still for `settleTimeout` exactly if at each of
them nothing has been overlooked for as long. -/
theorem recalibrated_at_rest_iff (b : CalibrateBuild) (c : IMUCalibrateCommand m n)
    (events : List (CalibrateEvent m n)) :
    Each (next b) (RecalibratesStill b) ⟨c, []⟩ events ↔
      Each (next b) OverlooksNothing ⟨c, []⟩ events :=
  each_iff_of_step (fun _ _ h => h.recalibratesStill_iff) (fun _ e h _ => h.next e) (inv_nil c)

/-- A reading of motors that are all online, on a chassis that stands. -/
def onlineReading (now : UInt32) (yaw : Fin m → ℚ) (pitch : Fin n → ℚ) : CalibrateReading m n where
  now
  yaw := ⟨fun _ => true, yaw, fun _ => 0⟩
  pitch := ⟨fun _ => true, pitch, fun _ => 0⟩
  chassisVelocity := (0, 0, 0)
  imuState := .IMU_NOT_CALIBRATED

/-- The sentry's build. -/
def sentryBuild : CalibrateBuild := ⟨false, (0, 0, 0)⟩

/-- The command with controllers as they are constructed. -/
def freshCommand (m n : ℕ) : IMUCalibrateCommand m n :=
  .construct .WAITING_FOR_SYSTEMS_ONLINE
    (.construct (fun _ => .construct {} 0 0 0 0) fun _ => .construct {} 0 0 0 0)

/-- An activation at the given times, with the yaw errors `yaw` throughout. -/
def activation (times : List UInt32) (yaw : Fin m → ℚ) : List (CalibrateEvent m 1) :=
  .init :: times.map fun now => .execute (onlineReading now yaw fun _ => 0)

/-- A recalibration at rest. -/
example :
    Each (next sentryBuild) (RecalibratesStill sentryBuild) ⟨freshCommand 1 1, []⟩
        (activation [0, 2, 4, 1004, 2004] fun _ => 0) ∧
      (after (next sentryBuild) ⟨freshCommand 1 1, []⟩
        (activation [0, 2, 4, 1004, 2004] fun _ => 0)).command.calibrationState =
          .CALIBRATING_IMU := by
  decide +kernel

/-- The sentry's second activation: the yaw axis swings through its target. -/
def swingingEvents : List (CalibrateEvent 1 1) :=
  activation [0, 2, 4, 1004, 2004] (fun _ => 0) ++ [.finish] ++
    activation [9000, 9002] fun _ => 1 / 50

/-- One activation of the sentry: the yaw axis leaves its target for a moment once it has settled,
and the pitch axis is off its target until the yaw axis has settled again. -/
def unaskedEvents : List (CalibrateEvent 1 1) :=
  .init :: [(0, 0, 0), (2, 0, 0), (4, 0, 0), (1004, 0, 0), (1006, 1, 0), (1008, 0, 1), (2006, 0, 1),
    (2008, 0, 0)].map fun (now, yaw, pitch) =>
      .execute (onlineReading now (fun _ => yaw) fun _ => pitch)

/-- **Recalibrations in motion.**  The second activation asks for one in its third execute, 2 ms
after an execute that found the yaw motor out of tolerance, since the timers still run that the
first activation has started.  In a single activation, the pitch motor may be out of tolerance while
the yaw axis settles again; of two yaw motors the first may be so all the time; and shortly before
the clock overflows there is no waiting. -/
theorem recalibrated_in_motion :
    ((∃ x ∈ (after (next sentryBuild) ⟨freshCommand 1 1, []⟩ swingingEvents).log,
        x.reading.now = 9002 ∧ ¬ x.Still) ∧
      ¬ Each (next sentryBuild) (RecalibratesStill sentryBuild) ⟨freshCommand 1 1, []⟩
        (swingingEvents ++ [.execute (onlineReading 9004 (fun _ => 1 / 60) fun _ => 0)])) ∧
    ¬ Each (next sentryBuild) (RecalibratesStill sentryBuild) ⟨freshCommand 1 1, []⟩
      unaskedEvents ∧
    ¬ Each (next sentryBuild) (RecalibratesStill sentryBuild) ⟨freshCommand 2 1, []⟩
      (activation [0, 2, 4, 1004, 2004] fun i => if i.val = 0 then 1 else 0) ∧
    ¬ Each (next sentryBuild) (RecalibratesStill sentryBuild) ⟨freshCommand 1 1, []⟩
      (activation [4294967000, 4294967002, 4294967004, 4294967006, 4294967008] fun _ => 0) := by
  decide +kernel

end CalibrateRun

end Aimbots.Informants
