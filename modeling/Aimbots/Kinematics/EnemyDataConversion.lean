import Aimbots.Ballistics.BallisticsSolver
import Aimbots.Kinematics.OrientationHistory

/-!
# `enemy_data_conversion.cpp`: what a found target does to the vision data

`updateTargetInfo` transforms the position that the Jetson sent and puts it into three Kalman
filters, unless it is too far away or too high.  When it turns a position down, it has taken over
the time of the frame already, and the communicator takes over the time of the message afterwards:
the filters go on as if there had been no message, and the readers of the two times do not
(`rejected_consumers`).

Numbers are real.  A filter that was updated over no time is left with floats that are not numbers,
as which it is `none`.  The Fourier transform of the `x` position, which nothing reads, is left out.
-/

namespace Aimbots.Vision

open Jetson Kinematics Matrix
open TurretComms (LinearAxis AngleUnit)
open scoped Numerals

noncomputable section

/-! ### The filters -/

/-- `KinematicKalman`: the state vector of `z`, the last measurement, and `x` and `P`. -/
structure KinematicKalman where
  z : Vector3f ℝ
  x : Vector3f ℝ
  P : Matrix3f ℝ

namespace KinematicKalman

/-- `KF_P`. -/
def KF_P : Matrix3f ℝ := 1

/-- `KF_H`. -/
def KF_H : Matrix3f ℝ := 1

/-- `KF_Q`. -/
def KF_Q : Matrix3f ℝ := !![1e-1, 0, 0; 0, 1e0, 0; 0, 0, 1e1]

/-- `KF_R`. -/
def KF_R : Matrix3f ℝ := !![1e0, 0, 0; 0, 1e2, 0; 0, 0, 1e4]

/-- The constructor with which the converter constructs its filters. -/
def construct : KinematicKalman := ⟨0, 0, KF_P⟩

/-- `stateSpaceMatrix`. -/
def stateSpaceMatrix (dt : ℝ) : Matrix3f ℝ := !![1, dt, 0.5 * dt ^ 2; 0, 1, dt; 0, 0, 1]

/-- `predict`. -/
def predict (f : KinematicKalman) (dt : ℝ) : KinematicKalman :=
  let F := stateSpaceMatrix dt
  { f with
    x := F *ᵥ f.x
    P := F * f.P * Fᵀ + KF_Q }

/-- `updateFromPosition`, over the time `dt`. -/
def updateFromPosition (z : Vector3f ℝ) (x dt : ℝ) : Vector3f ℝ :=
  let v1 := (x - z 0) / dt
  let a1 := (v1 - z 1) / dt
  ![x, v1, a1]

open Classical in
/-- `update` from a position. -/
def update (f : KinematicKalman) (dt zPos : ℝ) : Option KinematicKalman :=
  if dt = 0 then none
  else
    let f := f.predict dt
    let z := updateFromPosition f.z zPos dt
    let PHt := f.P * KF_Hᵀ
    let y := z - KF_H *ᵥ f.x
    let S := KF_H * PHt + KF_R
    let K := PHt * S⁻¹
    some ⟨z, f.x + K *ᵥ y, (1 - K * KF_H) * f.P⟩

end KinematicKalman

/-! ### The frames of the turret -/

/-- `TurretFrames`. -/
structure TurretFrames where
  turretFieldFrame : CoordinateFrame ℝ
  turretCameraFrame : CoordinateFrame ℝ

/-- `camera_offset_angle`. -/
def camera_offset_angle : ℝ := 0

/-- `TurretFrames::mirrorPastCameraFrame`. -/
def TurretFrames.mirrorPastCameraFrame (cameraOrigin : Vector3f ℝ) (frames : TurretFrames)
    (gimbalYawAngle gimbalPitchAngle : ℝ) (angleUnit : AngleUnit) : TurretFrames :=
  let orientation :=
    rotationMatrix gimbalYawAngle .Z_AXIS angleUnit *
        rotationMatrix gimbalPitchAngle .X_AXIS angleUnit *
      rotationMatrix camera_offset_angle .Z_AXIS .Degrees
  { frames with
    turretCameraFrame :=
      (frames.turretCameraFrame.setOrientation orientation).setOrigin
        (orientation *ᵥ cameraOrigin) }

/-- What the converter uses of the `KinematicInformant`: the history of the gimbal and the frames of
the turret. -/
structure KinematicInformant where
  history : OrientationHistory
  turretFrames : TurretFrames

/-- `mirrorPastRobotFrame`; the frames of the robot, which it also mirrors, are not read here. -/
def KinematicInformant.mirrorPastRobotFrame (cameraOrigin : Vector3f ℝ) (i : KinematicInformant)
    (frameDelay_ms : UInt32) : KinematicInformant :=
  let gimbalFieldAngles := i.history.getGimbalFieldOrientationAtTime frameDelay_ms
  { i with
    turretFrames := i.turretFrames.mirrorPastCameraFrame cameraOrigin gimbalFieldAngles.1
      gimbalFieldAngles.2 .Radians }

/-! ### The converter -/

/-- The number that the bits of a `float` stand for, if they stand for one. -/
def floatValue (bits : BitVec 32) : Option ℝ :=
  let sign : ℝ := if bits.msb then -1 else 1
  let exponent := bits.toNat / 8388608 % 256
  let fraction := bits.toNat % 8388608
  if exponent = 255 then none
  else if exponent = 0 then some (sign * fraction * 2 ^ (-149 : ℤ))
  else some (sign * (8388608 + fraction : ℕ) * 2 ^ (exponent - 150 : ℤ))

/-- The vector of three floats that are numbers. -/
def vectorValue (position : Position) : Option (Vector3f ℝ) :=
  match floatValue position.x, floatValue position.y, floatValue position.z with
  | some x, some y, some z => some ![x, y, z]
  | _, _, _ => none

/-- `MICROSECONDS_PER_SECOND`. -/
def MICROSECONDS_PER_SECOND : UInt32 := 1000000

/-- `MICROSECONDS_PER_MS`. -/
def MICROSECONDS_PER_MS : UInt32 := 1000

/-- `plateTimeOffsetDisplay`. -/
def plateTimeOffsetDisplay : UInt32 := 0

/-- `VALID_TIME`. -/
def VALID_TIME : ℕ := 0

/-- `MAX_DELTA`. -/
def MAX_DELTA : ℝ := 25.0

/-- `BASE_HEIGHT_THRESHOLD`. -/
def BASE_HEIGHT_THRESHOLD : ℝ := 0

/-- The data members of `VisionDataConversion`, and the informant that it refers to. -/
structure VisionDataConversion where
  lastFrameCaptureDelay : UInt32
  XPositionFilter : Option KinematicKalman
  YPositionFilter : Option KinematicKalman
  ZPositionFilter : Option KinematicKalman
  lastUpdateTimestamp_uS : UInt32
  lastFrameCaptureTimestamp_uS : UInt32
  kinematicInformant : KinematicInformant

/-- A transformed position that is put into the filters. -/
def WithinGate (p : Vector3f ℝ) : Prop :=
  |√(p 0 ^ 2 + p 1 ^ 2 + p 2 ^ 2)| < MAX_DELTA ∧ p 2 < BASE_HEIGHT_THRESHOLD

namespace VisionDataConversion

-- `CAMERA_ORIGIN_RELATIVE_TO_TURRET_ORIGIN`
variable (cameraOrigin : Vector3f ℝ)

/-- The constructor. -/
def construct (kinematicInformant : KinematicInformant) : VisionDataConversion :=
  ⟨0, some .construct, some .construct, some .construct, 0, 0, kinematicInformant⟩

/-- The members that are set before the position is looked at. -/
def takeFrame (c : VisionDataConversion) (currentTime_uS : UInt32) (frameCaptureDelay : UInt8) :
    VisionDataConversion :=
  let lastFrameCaptureDelay := frameCaptureDelay.toUInt32 + plateTimeOffsetDisplay
  { c with
    lastFrameCaptureDelay
    kinematicInformant := c.kinematicInformant.mirrorPastRobotFrame cameraOrigin
      (lastFrameCaptureDelay + plateTimeOffsetDisplay)
    lastFrameCaptureTimestamp_uS :=
      currentTime_uS - frameCaptureDelay.toUInt32 * MICROSECONDS_PER_MS }

/-- `transformedPosition`, with the frames as they were when the frame was captured. -/
def transformedPosition (c : VisionDataConversion) (position : Position) : Option (Vector3f ℝ) :=
  let frames := c.kinematicInformant.turretFrames
  (vectorValue position).map (frames.turretCameraFrame.getPointInFrame frames.turretFieldFrame)

open Classical in
/-- `updateTargetInfo`; a comparison with a float that is not a number is false. -/
def updateTargetInfo (currentTime_uS : UInt32) (c : VisionDataConversion) (position : Position)
    (frameCaptureDelay : UInt8) : VisionDataConversion :=
  let c := c.takeFrame cameraOrigin currentTime_uS frameCaptureDelay
  match c.transformedPosition position with
  | none => c
  | some p =>
    let dt : ℝ :=
      (currentTime_uS - c.lastUpdateTimestamp_uS).toNat / MICROSECONDS_PER_SECOND.toNat
    if WithinGate p then
      { c with
        XPositionFilter := c.XPositionFilter.bind fun filter => filter.update dt (p 0)
        YPositionFilter := c.YPositionFilter.bind fun filter => filter.update dt (p 1)
        ZPositionFilter := c.ZPositionFilter.bind fun filter => filter.update dt (p 2)
        lastUpdateTimestamp_uS := currentTime_uS }
    else c

/-- `isLastFrameStale`; `now` is the microsecond clock. -/
def isLastFrameStale (c : VisionDataConversion) (now : UInt32) : Bool :=
  (now - c.lastFrameCaptureTimestamp_uS).toNat > VALID_TIME * MICROSECONDS_PER_SECOND.toNat

/-- The position fails the distance or height gate of `updateTargetInfo`. -/
def Rejected (c : VisionDataConversion) (currentTime_uS : UInt32) (position : Position)
    (frameCaptureDelay : UInt8) : Prop :=
  ∀ p ∈ (c.takeFrame cameraOrigin currentTime_uS frameCaptureDelay).transformedPosition position,
    ¬ WithinGate p

variable {cameraOrigin} {c : VisionDataConversion} {currentTime_uS : UInt32} {position : Position}
  {frameCaptureDelay : UInt8}

/-- A position that is turned down leaves what was set before it was looked at. -/
theorem updateTargetInfo_of_rejected
    (h : c.Rejected cameraOrigin currentTime_uS position frameCaptureDelay) :
    updateTargetInfo cameraOrigin currentTime_uS c position frameCaptureDelay =
      c.takeFrame cameraOrigin currentTime_uS frameCaptureDelay := by
  simp only [updateTargetInfo]
  cases hp : (c.takeFrame cameraOrigin currentTime_uS frameCaptureDelay).transformedPosition
      position with
  | none => rfl
  | some p => exact if_neg (h p hp)

/-- A frame is stale at any time but that of its capture. -/
theorem isLastFrameStale_iff (now : UInt32) :
    c.isLastFrameStale now = true ↔ now ≠ c.lastFrameCaptureTimestamp_uS := by
  rw [isLastFrameStale, decide_eq_true_iff, VALID_TIME, Nat.zero_mul, gt_iff_lt,
    Nat.pos_iff_ne_zero,
    Ne, Ne, not_iff_not, ← UInt32.toNat_zero, UInt32.toNat_inj, UInt32.sub_eq_iff_eq_add,
    UInt32.zero_add]

end VisionDataConversion

/-! ### A message that is turned down -/

/-- What the readers of the vision data read is the same: the filters and the time of their last
update, whether the last frame is stale, at any time, and the time of the last found target. -/
structure SameForConsumers (s s' : JetsonCommunicator VisionDataConversion) : Prop where
  XPositionFilter :
    s'.visionDataConverter.XPositionFilter = s.visionDataConverter.XPositionFilter
  YPositionFilter :
    s'.visionDataConverter.YPositionFilter = s.visionDataConverter.YPositionFilter
  ZPositionFilter :
    s'.visionDataConverter.ZPositionFilter = s.visionDataConverter.ZPositionFilter
  lastUpdateTimestamp_uS :
    s'.visionDataConverter.lastUpdateTimestamp_uS = s.visionDataConverter.lastUpdateTimestamp_uS
  isLastFrameStale : ∀ now, s'.visionDataConverter.isLastFrameStale now =
    s.visionDataConverter.isLastFrameStale now
  lastFoundTargetTime : s'.lastFoundTargetTime = s.lastFoundTargetTime

variable {cameraOrigin : Vector3f ℝ} {s s' : JetsonCommunicator VisionDataConversion}
  {call : SerialCall} {m : JetsonMessage}

/-- With the filters and the time of their last update left alone, the consumers read the same if
the times of the frame and of the target are the same. -/
theorem sameForConsumers_iff {currentTime_uS time : UInt32} {frameCaptureDelay : UInt8}
    (hconverter : s'.visionDataConverter =
      s.visionDataConverter.takeFrame cameraOrigin currentTime_uS frameCaptureDelay)
    (htime : s'.lastFoundTargetTime = time) :
    SameForConsumers s s' ↔
      currentTime_uS - frameCaptureDelay.toUInt32 * MICROSECONDS_PER_MS =
          s.visionDataConverter.lastFrameCaptureTimestamp_uS ∧
        time = s.lastFoundTargetTime := by
  have hcaptured : s'.visionDataConverter.lastFrameCaptureTimestamp_uS =
      currentTime_uS - frameCaptureDelay.toUInt32 * MICROSECONDS_PER_MS := by
    rw [hconverter]
    rfl
  constructor
  · intro hsame
    refine ⟨?_, htime.symm.trans hsame.lastFoundTargetTime⟩
    -- at the time of its capture a frame is not stale
    by_contra hne
    have hfresh := hsame.isLastFrameStale
      (currentTime_uS - frameCaptureDelay.toUInt32 * MICROSECONDS_PER_MS)
    have hold := (VisionDataConversion.isLastFrameStale_iff _).2 hne
    rw [← hfresh, VisionDataConversion.isLastFrameStale_iff, hcaptured] at hold
    exact hold rfl
  · rintro ⟨hcapture, hlast⟩
    constructor
    · rw [hconverter]
      rfl
    · rw [hconverter]
      rfl
    · rw [hconverter]
      rfl
    · rw [hconverter]
      rfl
    · intro now
      rw [Bool.eq_iff_iff, VisionDataConversion.isLastFrameStale_iff,
        VisionDataConversion.isLastFrameStale_iff, hcaptured, hcapture]
    · exact htime.trans hlast

/-- **A message that is turned down** leaves the filters and the time of their last update.  The
last frame is the one of the message, and the last target is found at its time; so the readers of
these two notice the message, unless it happens to have the times of the one before. -/
theorem rejected_consumers
    (hcall : s.updateSerial (VisionDataConversion.updateTargetInfo cameraOrigin) call =
      some (s', some m))
    (hfound : CVState.FOUND ≤ m.cvState)
    (hrejected : s.visionDataConverter.Rejected cameraOrigin call.timeMicroseconds
      ⟨m.targetX, m.targetY, m.targetZ⟩ m.delay) :
    (s'.visionDataConverter.XPositionFilter = s.visionDataConverter.XPositionFilter ∧
        s'.visionDataConverter.YPositionFilter = s.visionDataConverter.YPositionFilter ∧
        s'.visionDataConverter.ZPositionFilter = s.visionDataConverter.ZPositionFilter ∧
        s'.visionDataConverter.lastUpdateTimestamp_uS =
          s.visionDataConverter.lastUpdateTimestamp_uS) ∧
      (∀ now, s'.visionDataConverter.isLastFrameStale now = true ↔
        now ≠ call.timeMicroseconds - m.delay.toUInt32 * MICROSECONDS_PER_MS) ∧
      s'.lastFoundTargetTime = call.timeMicroseconds ∧
      (SameForConsumers s s' ↔
        call.timeMicroseconds - m.delay.toUInt32 * MICROSECONDS_PER_MS =
            s.visionDataConverter.lastFrameCaptureTimestamp_uS ∧
          call.timeMicroseconds = s.lastFoundTargetTime) := by
  obtain ⟨hconverter, htime⟩ := JetsonCommunicator.updateSerial_found hcall hfound
  rw [VisionDataConversion.updateTargetInfo_of_rejected hrejected] at hconverter
  refine ⟨?_, ?_, htime, sameForConsumers_iff hconverter htime⟩
  · rw [hconverter]
    exact ⟨rfl, rfl, rfl, rfl⟩
  · intro now
    rw [VisionDataConversion.isLastFrameStale_iff, hconverter]
    rfl

/-- The solver takes the time of a message for a new target, and solves for what the filters make of
the last one again. -/
theorem displayed_of_found {vision : Ballistics.VisionDataConversion VisionDataConversion}
    {solver : Ballistics.BallisticsSolver}
    (hcall : s.updateSerial (VisionDataConversion.updateTargetInfo cameraOrigin) call =
      some (s', some m))
    (hfound : CVState.FOUND ≤ m.cvState)
    (hsolved : solver.lastPlatePredictionTime = s.lastFoundTargetTime) {now : UInt32}
    (hseen : Ballistics.BallisticsSolver.TargetSeen s' now) (projectileSpeed : Option ℝ) :
    (solver.solve vision s' now projectileSpeed).displayed = none ↔
      call.timeMicroseconds = s.lastFoundTargetTime := by
  have htime := (JetsonCommunicator.updateSerial_found hcall hfound).2
  rw [← htime, ← hsolved]
  by_cases heq : solver.lastPlatePredictionTime = s'.lastFoundTargetTime
  · rw [Ballistics.BallisticsSolver.solve_of_time_eq hseen heq]
    exact iff_of_true rfl heq.symm
  · rw [Ballistics.BallisticsSolver.solve_of_time_ne hseen heq]
    exact iff_of_false nofun (Ne.symm heq)

/-! ### A target above the camera -/

theorem rotationMatrix_zero (axis : LinearAxis) (unit : AngleUnit) :
    rotationMatrix 0 axis unit = 1 := by
  have hzero : toRadian 0 = 0 := by rw [toRadian, zero_mul, zero_div]
  cases axis
  all_goals
    ext i j
    fin_cases i <;> fin_cases j <;> simp [rotationMatrix, hzero]

/-- A camera that is not turned against the field only moves what it sees. -/
theorem getPointInFrame_default (origin v : Vector3f ℝ) (f : CoordinateFrame ℝ) :
    ((f.setOrientation 1).setOrigin origin).getPointInFrame .default v = v + origin := by
  have hin : (CoordinateFrame.default : CoordinateFrame ℝ).transformIn = 1 := by
    show invertTransform (initTransform 1 0) = 1
    rw [initTransform_one]
    ext i j
    fin_cases i <;> fin_cases j <;> simp [invertTransform, initTransform]
  have hout : ((f.setOrientation 1).setOrigin origin).transformOut = initTransform 1 origin := rfl
  rw [CoordinateFrame.getPointInFrame, CoordinateFrame.getTransformToFrame, hin, hout,
    Matrix.one_mul,
    initTransform_mulVec, Matrix.one_mulVec, homogenousCoordinateCrop_extend]

/-- The standard's `CAMERA_ORIGIN_RELATIVE_TO_TURRET_ORIGIN`. -/
def standardCamera : Vector3f ℝ := ![-0.002201, 0.1348, -0.0498]

/-- A converter whose gimbal has looked straight ahead all the time. -/
def level : VisionDataConversion :=
  .construct ⟨.construct (fun _ => 0) (fun _ => 0) (fun _ => 0), ⟨.default, .default⟩⟩

/-- A message of a target a metre above the camera. -/
def aboveMessage : JetsonMessage := ⟨0x61, 0, 0, 0x3F800000, 20, 1⟩

/-- The communicator before the last byte of that message. -/
def beforeLast : JetsonCommunicator VisionDataConversion :=
  { JetsonCommunicator.construct level aboveMessage.toBytes 0 ⟨0, 0, 0⟩ with
    currentSerialState := .AssemblingMessage
    nextByteIndex := 14 }

theorem transformedPosition_level (position : Position) :
    (level.takeFrame standardCamera 50000 20).transformedPosition position =
      (vectorValue position).map fun v => v + standardCamera := by
  have horientation : rotationMatrix 0 .Z_AXIS .Radians * rotationMatrix 0 .X_AXIS .Radians *
      rotationMatrix camera_offset_angle .Z_AXIS .Degrees = 1 := by
    rw [camera_offset_angle, rotationMatrix_zero, rotationMatrix_zero, rotationMatrix_zero,
      Matrix.one_mul, Matrix.one_mul]
  have hcamera : (level.takeFrame standardCamera 50000 20).kinematicInformant.turretFrames =
      ⟨.default, (CoordinateFrame.default.setOrientation 1).setOrigin standardCamera⟩ := by
    show TurretFrames.mirrorPastCameraFrame standardCamera ⟨.default, .default⟩ ((0 : ℚ) : ℝ)
      ((0 : ℚ) : ℝ) .Radians = _
    simp only [TurretFrames.mirrorPastCameraFrame, Rat.cast_zero, horientation, Matrix.one_mulVec]
  have hpoint := getPointInFrame_default standardCamera (f := .default)
  rw [VisionDataConversion.transformedPosition, hcamera]
  exact congrArg (Option.map · _) (funext hpoint)

theorem floatValue_zero : floatValue 0 = some 0 := by
  have hexponent : (0 : BitVec 32).toNat / 8388608 % 256 = 0 := by decide
  have hfraction : (0 : BitVec 32).toNat % 8388608 = 0 := by decide
  simp only [floatValue, hexponent, hfraction]
  simp

theorem floatValue_one : floatValue 0x3F800000 = some 1 := by
  have hsign : (0x3F800000 : BitVec 32).msb = false := by decide
  have hexponent : (0x3F800000 : BitVec 32).toNat / 8388608 % 256 = 127 := by decide
  have hfraction : (0x3F800000 : BitVec 32).toNat % 8388608 = 0 := by decide
  simp only [floatValue, hsign, hexponent, hfraction]
  norm_num

theorem rejected_level :
    level.Rejected standardCamera 50000 ⟨aboveMessage.targetX, aboveMessage.targetY,
      aboveMessage.targetZ⟩ 20 := by
  intro p hp
  rw [transformedPosition_level] at hp
  simp only [vectorValue, aboveMessage, floatValue_zero, floatValue_one, Option.map_some,
    Option.mem_def,
    Option.some.injEq] at hp
  subst hp
  intro hgate
  have hheight : (1 : ℝ) + -0.0498 < 0 := hgate.2
  norm_num at hheight

theorem updateSerial_beforeLast :
    ∃ s', beforeLast.updateSerial (VisionDataConversion.updateTargetInfo standardCamera)
      ⟨50, 50000, some 1⟩ = some (s', some aboveMessage) := ⟨_, rfl⟩

theorem rejected_consumers_level :
    ∃ s', (SameForConsumers beforeLast s' ↔
      (50000 : UInt32) - 20 * MICROSECONDS_PER_MS =
          beforeLast.visionDataConverter.lastFrameCaptureTimestamp_uS ∧
        50000 = beforeLast.lastFoundTargetTime) := by
  obtain ⟨s', hs'⟩ := updateSerial_beforeLast
  exact ⟨s', (rejected_consumers hs' (by decide) rejected_level).2.2.2⟩

/-- The message of the target above the camera is turned down, and its times are taken over. -/
theorem rejected_noticed :
    ∃ s', beforeLast.updateSerial (VisionDataConversion.updateTargetInfo standardCamera)
        ⟨50, 50000, some 1⟩ = some (s', some aboveMessage) ∧
      CVState.FOUND ≤ aboveMessage.cvState ∧
      beforeLast.visionDataConverter.Rejected standardCamera 50000
        ⟨aboveMessage.targetX, aboveMessage.targetY, aboveMessage.targetZ⟩ aboveMessage.delay ∧
      ¬ SameForConsumers beforeLast s' := by
  obtain ⟨s', hs'⟩ := updateSerial_beforeLast
  refine ⟨s', hs', by decide, rejected_level, fun hsame => ?_⟩
  have htime := (JetsonCommunicator.updateSerial_found hs' (by decide)).2
  rw [hsame.lastFoundTargetTime] at htime
  exact absurd htime (by decide)

end

end Aimbots.Vision
