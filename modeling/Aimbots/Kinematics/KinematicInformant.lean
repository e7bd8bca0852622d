import Aimbots.TurretComms.Receiver

/-!
# `kinematic_state_vector.hpp`, and the IMU state vectors of `kinematic_informant.cpp`

A `KinematicStateVector` is updated from a position, a velocity or an acceleration; what is of a
higher order is a difference quotient over the time since the last update of any kind.
`updateIMUKinematicStateVector` updates every angular state vector from the angle and then, in the
same millisecond, from the angular velocity.  The second quotient is one over no time: no call goes
through (`updateIMUKinematicStateVector_eq_none`).

The arithmetic is exact, and a division by zero is an error.
-/

namespace Aimbots.Informants

open TurretComms (AngularAxis LinearAxis M_PI)

/-! ### `KinematicStateVector` -/

/-- `KinematicStateVector`, with `stateVector` by its three entries. -/
structure KinematicStateVector where
  position : ℚ
  velocity : ℚ
  acceleration : ℚ
  lastTime : UInt32
deriving DecidableEq, Repr

namespace KinematicStateVector

/-- The constructor. -/
def construct : KinematicStateVector := ⟨0, 0, 0, 0⟩

/-- `calcIntegral`. -/
def calcIntegral (x0 v1 dt : ℚ) : ℚ := x0 + v1 * dt

/-- `calcDerivative`, none for a division by zero. -/
def calcDerivative (x0 x1 dt : ℚ) : Option ℚ := if dt = 0 then none else some ((x1 - x0) / dt)

/-- `updateFromPosition`.  Both times are unsigned, and so is their difference. -/
def updateFromPosition (s : KinematicStateVector) (currTime : UInt32) (x : ℚ)
    (dt : Option ℚ := none) : Option KinematicStateVector := do
  let v1 ← calcDerivative s.position x (dt.getD (currTime - s.lastTime).toNat)
  let a1 ← calcDerivative s.velocity v1 (dt.getD (currTime - s.lastTime).toNat)
  return ⟨x, v1, a1, currTime⟩

/-- `updateFromVelocity`.  The current time is a `float`, and so is the difference. -/
def updateFromVelocity (s : KinematicStateVector) (currTime : UInt32) (v : ℚ)
    (updateLowerOrderTerms : Bool := true) (dt : Option ℚ := none) :
    Option KinematicStateVector := do
  let x1 := calcIntegral s.position v (dt.getD (currTime.toNat - s.lastTime.toNat))
  let a1 ← calcDerivative s.velocity v (dt.getD (currTime.toNat - s.lastTime.toNat))
  return ⟨if updateLowerOrderTerms then x1 else s.position, v, a1, currTime⟩

/-- `updateFromAcceleration`. -/
def updateFromAcceleration (s : KinematicStateVector) (currTime : UInt32) (a : ℚ)
    (updateLowerOrderTerms : Bool := true) (dt : Option ℚ := none) : KinematicStateVector :=
  if updateLowerOrderTerms then
    let v1 := calcIntegral s.velocity a (dt.getD (currTime.toNat - s.lastTime.toNat))
    let x1 := calcIntegral s.position v1 (dt.getD (currTime.toNat - s.lastTime.toNat))
    ⟨x1, v1, a, currTime⟩
  else { s with acceleration := a, lastTime := currTime }

variable {s s' : KinematicStateVector} {currTime : UInt32} {x v : ℚ} {lower : Bool}

/-- An update from the position sets the time that the next update counts from. -/
theorem lastTime_of_updateFromPosition (h : s.updateFromPosition currTime x = some s') :
    s'.lastTime = currTime := by
  simp only [updateFromPosition, Option.bind_eq_bind, Option.bind_eq_some_iff] at h
  obtain ⟨v1, -, a1, -, heq⟩ := h
  cases heq
  rfl

/-- **Both updates in one millisecond**: the second one divides by zero. -/
theorem updateFromVelocity_after_updateFromPosition
    (h : s.updateFromPosition currTime x = some s') :
    s'.updateFromVelocity currTime v lower = none := by
  have hdt : (currTime.toNat : ℚ) - s'.lastTime.toNat = 0 := by
    rw [lastTime_of_updateFromPosition h, sub_self]
  simp [updateFromVelocity, calcDerivative, hdt]

end KinematicStateVector

/-! ### The IMU -/

/-- `modm::toRadian`. -/
def toRadian (angle : ℚ) : ℚ := angle * M_PI / 180

/-- The readings of the IMU, in degrees and degrees a second. -/
structure ImuReadings where
  pitch : ℚ
  roll : ℚ
  yaw : ℚ
  gx : ℚ
  gy : ℚ
  gz : ℚ
  ax : ℚ
  ay : ℚ
  az : ℚ
deriving DecidableEq, Repr

namespace ImuReadings

/-- `getLocalIMUAngle`. -/
def getLocalIMUAngle (imu : ImuReadings) : AngularAxis → ℚ
  | .PITCH_AXIS => -toRadian imu.pitch
  | .ROLL_AXIS => toRadian imu.roll
  | .YAW_AXIS => toRadian (imu.yaw - 180)

/-- `getIMUAngularVelocity`. -/
def getIMUAngularVelocity (imu : ImuReadings) : AngularAxis → ℚ
  | .PITCH_AXIS => -toRadian imu.gy
  | .ROLL_AXIS => toRadian imu.gx
  | .YAW_AXIS => toRadian imu.gz

end ImuReadings

/-- `imuLinearState` and `imuAngularState` of a `KinematicInformant`. -/
structure KinematicInformant where
  imuLinearState : LinearAxis → KinematicStateVector
  imuAngularState : LinearAxis → KinematicStateVector

/-- A call of `updateIMUKinematicStateVector`: when it is made, and what the IMU reads then. -/
structure Call where
  currTime : UInt32
  imu : ImuReadings

namespace KinematicInformant

/-- The constructor. -/
def construct : KinematicInformant := ⟨fun _ => .construct, fun _ => .construct⟩

/-- `updateIMUKinematicStateVector`. -/
def updateIMUKinematicStateVector (k : KinematicInformant) (c : Call) :
    Option KinematicInformant := do
  let linear : LinearAxis → KinematicStateVector
    | .X_AXIS => (k.imuLinearState .X_AXIS).updateFromAcceleration c.currTime (-c.imu.ay)
    | .Y_AXIS => (k.imuLinearState .Y_AXIS).updateFromAcceleration c.currTime c.imu.ax
    | .Z_AXIS => (k.imuLinearState .Z_AXIS).updateFromAcceleration c.currTime c.imu.az
  let x ← (k.imuAngularState .X_AXIS).updateFromPosition c.currTime
    (c.imu.getLocalIMUAngle .PITCH_AXIS)
  let y ← (k.imuAngularState .Y_AXIS).updateFromPosition c.currTime
    (c.imu.getLocalIMUAngle .ROLL_AXIS)
  let z ← (k.imuAngularState .Z_AXIS).updateFromPosition c.currTime
    (c.imu.getLocalIMUAngle .YAW_AXIS)
  let x ← x.updateFromVelocity c.currTime (c.imu.getIMUAngularVelocity .PITCH_AXIS) false
  let y ← y.updateFromVelocity c.currTime (c.imu.getIMUAngularVelocity .ROLL_AXIS) false
  let z ← z.updateFromVelocity c.currTime (c.imu.getIMUAngularVelocity .YAW_AXIS) false
  return ⟨linear, fun | .X_AXIS => x | .Y_AXIS => y | .Z_AXIS => z⟩

/-- What `updateIMUKinematicStateVector` makes of `imuLinearState`. -/
def updateIMULinearState (k : KinematicInformant) (c : Call) : LinearAxis → KinematicStateVector
  | .X_AXIS => (k.imuLinearState .X_AXIS).updateFromAcceleration c.currTime (-c.imu.ay)
  | .Y_AXIS => (k.imuLinearState .Y_AXIS).updateFromAcceleration c.currTime c.imu.ax
  | .Z_AXIS => (k.imuLinearState .Z_AXIS).updateFromAcceleration c.currTime c.imu.az

/-- What `updateIMUKinematicStateVector` makes of `imuAngularState`. -/
def updateIMUAngularState (k : KinematicInformant) (c : Call) :
    Option (LinearAxis → KinematicStateVector) := do
  let x ← (k.imuAngularState .X_AXIS).updateFromPosition c.currTime
    (c.imu.getLocalIMUAngle .PITCH_AXIS)
  let y ← (k.imuAngularState .Y_AXIS).updateFromPosition c.currTime
    (c.imu.getLocalIMUAngle .ROLL_AXIS)
  let z ← (k.imuAngularState .Z_AXIS).updateFromPosition c.currTime
    (c.imu.getLocalIMUAngle .YAW_AXIS)
  let x ← x.updateFromVelocity c.currTime (c.imu.getIMUAngularVelocity .PITCH_AXIS) false
  let y ← y.updateFromVelocity c.currTime (c.imu.getIMUAngularVelocity .ROLL_AXIS) false
  let z ← z.updateFromVelocity c.currTime (c.imu.getIMUAngularVelocity .YAW_AXIS) false
  return fun | .X_AXIS => x | .Y_AXIS => y | .Z_AXIS => z

/-- The linear states do not depend on the angular ones, and no division is in them. -/
theorem updateIMUKinematicStateVector_eq (k : KinematicInformant) (c : Call) :
    k.updateIMUKinematicStateVector c =
      (k.updateIMUAngularState c).map fun angular => ⟨k.updateIMULinearState c, angular⟩ := by
  have hlinear : k.updateIMULinearState c = fun
      | .X_AXIS => (k.imuLinearState .X_AXIS).updateFromAcceleration c.currTime (-c.imu.ay)
      | .Y_AXIS => (k.imuLinearState .Y_AXIS).updateFromAcceleration c.currTime c.imu.ax
      | .Z_AXIS => (k.imuLinearState .Z_AXIS).updateFromAcceleration c.currTime c.imu.az := by
    funext axis
    cases axis <;> rfl
  simp only [updateIMUKinematicStateVector, updateIMUAngularState, hlinear, Option.bind_eq_bind,
    Option.map_bind, Option.pure_def, Function.comp_def, Option.map_some]

/-- The update of the first axis from its velocity comes in the millisecond of the one from its
position. -/
theorem updateIMUAngularState_eq_none (k : KinematicInformant) (c : Call) :
    k.updateIMUAngularState c = none := by
  unfold updateIMUAngularState
  simp only [Option.bind_eq_bind, Option.bind_eq_none_iff]
  intro x hx y _ z _ x' hx'
  rw [KinematicStateVector.updateFromVelocity_after_updateFromPosition hx] at hx'
  exact absurd hx' (Option.some_ne_none x').symm

/-- No call goes through, whatever was before it. -/
theorem updateIMUKinematicStateVector_eq_none (k : KinematicInformant) (c : Call) :
    k.updateIMUKinematicStateVector c = none := by
  rw [updateIMUKinematicStateVector_eq, updateIMUAngularState_eq_none, Option.map_none]

/-- The state after some calls, if no one of them divides by zero. -/
def calls (k : KinematicInformant) (run : List Call) : Option KinematicInformant :=
  run.foldlM updateIMUKinematicStateVector k

/-- The axis of the readings that an angular state is updated from. -/
def angularAxis : LinearAxis → AngularAxis
  | .X_AXIS => .PITCH_AXIS
  | .Y_AXIS => .ROLL_AXIS
  | .Z_AXIS => .YAW_AXIS

theorem calls_cons (k : KinematicInformant) (c : Call) (run : List Call) :
    k.calls (c :: run) = none := by
  rw [calls, List.foldlM_cons, updateIMUKinematicStateVector_eq_none]
  rfl

/-- No call of a run divides by zero, and each but the first one leaves the readings in the angular
states, and as their accelerations the difference quotients of the angular velocities. -/
def FiniteDifferences (run : List Call) : Prop :=
  (construct.calls run).isSome ∧
    ∀ before previous last rest, run = before ++ previous :: last :: rest →
      ∃ k, construct.calls (before ++ [previous, last]) = some k ∧
        ∀ axis,
          (k.imuAngularState axis).position = last.imu.getLocalIMUAngle (angularAxis axis) ∧
          (k.imuAngularState axis).velocity = last.imu.getIMUAngularVelocity (angularAxis axis) ∧
          (k.imuAngularState axis).acceleration =
            (last.imu.getIMUAngularVelocity (angularAxis axis) -
              previous.imu.getIMUAngularVelocity (angularAxis axis)) /
            (last.currTime.toNat - previous.currTime.toNat)

/-- **No run with a call in it** has finite differences for its accelerations. -/
theorem finiteDifferences_iff (run : List Call) : FiniteDifferences run ↔ run = [] := by
  constructor
  · rintro ⟨hsome, -⟩
    cases run with
    | nil => rfl
    | cons c run =>
      rw [calls_cons] at hsome
      exact absurd hsome Bool.false_ne_true
  · rintro rfl
    refine ⟨rfl, fun before previous last rest h => ?_⟩
    exact absurd h.symm (List.append_ne_nil_of_right_ne_nil before (List.cons_ne_nil _ _))

/-- The robot stands still and is read every two milliseconds. -/
theorem not_finiteDifferences_still :
    let still : ImuReadings := ⟨0, 0, 180, 0, 0, 0, 0, 0, 1⟩
    construct.updateIMUKinematicStateVector ⟨2, still⟩ = none ∧
      ¬ FiniteDifferences [⟨2, still⟩, ⟨4, still⟩] := by
  refine ⟨updateIMUKinematicStateVector_eq_none construct _, fun h => ?_⟩
  have hsome := h.1
  rw [calls_cons] at hsome
  exact absurd hsome Bool.false_ne_true

end KinematicInformant

end Aimbots.Informants
