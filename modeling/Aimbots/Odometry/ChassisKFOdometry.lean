import Aimbots.Tap.KalmanFilter
import Aimbots.Library.Numerals
import Aimbots.Library.Run
import Mathlib.Analysis.SpecialFunctions.Trigonometric.Basic
import Mathlib.LinearAlgebra.Matrix.Notation
import Mathlib.Tactic.FinCases
import Mathlib.Tactic.Linarith

/-!
# `odometry/chassis_kf_odometry.cpp`

The odometry weighs the wheel speeds by how fast the wheels accelerate:
`updateMeasurementCovariance` writes the covariance read from a table into two entries of `R`.
Arithmetic is exact.

The function stores the time of the call before it asks whether a time was stored, so its guard
fires at the reading zero of the clock only.  Any other first call measures an acceleration against
the velocity that the object was constructed with; and a call that the guard does stop leaves that
velocity for the next one.
-/

namespace Aimbots.Odometry

open Matrix Tap Run
open scoped Numerals

/-! ### `modm::interpolation::Linear` -/

/-- The loop of `interpolate`, past the point `last`. -/
noncomputable def interpolateFrom (last : ℝ × ℝ) : List (ℝ × ℝ) → ℝ → ℝ
  | [], _ => last.2
  | current :: rest, value =>
    if value ≤ current.1 then
      let a := value - last.1
      let b := current.2 - last.2
      let c := current.1 - last.1
      a * b / c + last.2
    else interpolateFrom current rest value

/-- `interpolate`, for the table of supporting points `first :: rest`. -/
noncomputable def interpolate (first : ℝ × ℝ) (rest : List (ℝ × ℝ)) (value : ℝ) : ℝ :=
  if value ≤ first.1 then first.2 else interpolateFrom first rest value

theorem interpolateFrom_bounds {lo hi : ℝ} {last : ℝ × ℝ} {rest : List (ℝ × ℝ)} {value : ℝ}
    (hvalue : last.1 ≤ value) (hsorted : (last :: rest).Pairwise fun p q => p.1 < q.1)
    (hlo : ∀ p ∈ last :: rest, lo ≤ p.2) (hhi : ∀ p ∈ last :: rest, p.2 ≤ hi) :
    lo ≤ interpolateFrom last rest value ∧ interpolateFrom last rest value ≤ hi := by
  induction rest generalizing last with
  | nil => exact ⟨hlo _ List.mem_cons_self, hhi _ List.mem_cons_self⟩
  | cons current rest ih =>
    obtain ⟨hlast, hrest⟩ := List.pairwise_cons.1 hsorted
    by_cases hle : value ≤ current.1
    · have hc : 0 < current.1 - last.1 := sub_pos.2 (hlast current List.mem_cons_self)
      have heq : interpolateFrom last (current :: rest) value =
          (value - last.1) / (current.1 - last.1) * (current.2 - last.2) + last.2 := by
        rw [interpolateFrom, if_pos hle, div_mul_eq_mul_div]
      have ht : 0 ≤ (value - last.1) / (current.1 - last.1) :=
        div_nonneg (sub_nonneg.2 hvalue) hc.le
      have ht' : (value - last.1) / (current.1 - last.1) ≤ 1 :=
        (div_le_one hc).2 (by linarith)
      have hlo₁ := hlo last List.mem_cons_self
      have hlo₂ := hlo current (List.mem_cons_of_mem _ List.mem_cons_self)
      have hhi₁ := hhi last List.mem_cons_self
      have hhi₂ := hhi current (List.mem_cons_of_mem _ List.mem_cons_self)
      rw [heq]
      constructor <;> nlinarith
    · rw [interpolateFrom, if_neg hle]
      exact ih (not_le.1 hle).le hrest (fun p hp => hlo p (List.mem_cons_of_mem _ hp))
        fun p hp => hhi p (List.mem_cons_of_mem _ hp)

/-- The interpolant of a table lies between bounds of its outputs. -/
theorem interpolate_bounds {lo hi : ℝ} {first : ℝ × ℝ} {rest : List (ℝ × ℝ)}
    (hsorted : (first :: rest).Pairwise fun p q => p.1 < q.1)
    (hlo : ∀ p ∈ first :: rest, lo ≤ p.2) (hhi : ∀ p ∈ first :: rest, p.2 ≤ hi) (value : ℝ) :
    lo ≤ interpolate first rest value ∧ interpolate first rest value ≤ hi := by
  unfold interpolate
  split
  next => exact ⟨hlo _ List.mem_cons_self, hhi _ List.mem_cons_self⟩
  next hvalue => exact interpolateFrom_bounds (not_le.1 hvalue).le hsorted hlo hhi

/-! ### The constants -/

/-- `MAX_ACCELERATION`. -/
noncomputable def MAX_ACCELERATION : ℝ := 8.0

/-- `CHASSIS_WHEEL_ACCELERATION_LOW_PASS_ALPHA`. -/
noncomputable def CHASSIS_WHEEL_ACCELERATION_LOW_PASS_ALPHA : ℝ := 0.01

/-- The interpolator of `CHASSIS_ACCELERATION_TO_MEASUREMENT_COVARIANCE_LUT`. -/
noncomputable def accelerationToCovariance (acceleration : ℝ) : ℝ :=
  interpolate (0, 1E0) [(MAX_ACCELERATION, 1E2)] acceleration

/-- The assumed time between two calls of `update`, in seconds. -/
noncomputable def dt : ℝ := 0.002

noncomputable def KF_A : Matrix (Fin 6) (Fin 6) ℝ :=
  !![1, dt, 0.5 * dt * dt, 0, 0, 0;
     0, 1, dt, 0, 0, 0;
     0, 0, 1, 0, 0, 0;
     0, 0, 0, 1, dt, 0.5 * dt * dt;
     0, 0, 0, 0, 1, dt;
     0, 0, 0, 0, 0, 1]

def KF_C : Matrix (Fin 4) (Fin 6) ℝ :=
  !![0, 1, 0, 0, 0, 0;
     0, 0, 1, 0, 0, 0;
     0, 0, 0, 0, 1, 0;
     0, 0, 0, 0, 0, 1]

noncomputable def KF_Q : Matrix (Fin 6) (Fin 6) ℝ :=
  Matrix.diagonal ![1E1, 1E0, 1E-1, 1E1, 1E0, 1E-1]

noncomputable def KF_R : Fin (4 * 4) → ℝ :=
  ![1.0, 0, 0, 0,
    0, 1.2, 0, 0,
    0, 0, 1.0, 0,
    0, 0, 0, 1.2]

noncomputable def KF_P0 : Matrix (Fin 6) (Fin 6) ℝ :=
  Matrix.diagonal ![1E3, 1E3, 1E3, 1E3, 1E3, 1E3]

/-- The entry `[0]` of the measurement covariance. -/
def velXEntry : Fin (4 * 4) := ⟨0, Nat.zero_lt_succ _⟩

theorem velYEntry_lt : 2 * 4 + 2 < 4 * 4 := by decide

/-- The entry `[2 * NUM_INPUTS + 2]` of the measurement covariance. -/
def velYEntry : Fin (4 * 4) := ⟨2 * 4 + 2, velYEntry_lt⟩

/-! ### The odometry -/

/-- `tap::algorithms::lowPassFilter`. -/
noncomputable def lowPassFilter (prevValue newValue alpha : ℝ) : ℝ :=
  if alpha < 0 ∨ alpha > 1 then newValue else alpha * newValue + (1 - alpha) * prevValue

/-- `getVelocityWorldRelative`. -/
noncomputable def getVelocityWorldRelative (chassisRelativeVelocity : Fin 3 → ℝ)
    (chassisHeading : ℝ) : Fin 3 → ℝ :=
  -- `compareFloatClose(headingCos, 0.0f, 1e-6)`, and the same for the sine
  let headingCos := if |Real.cos chassisHeading| ≤ 1E-6 then 0 else Real.cos chassisHeading
  let headingSin := if |Real.sin chassisHeading| ≤ 1E-6 then 0 else Real.sin chassisHeading
  !![headingCos, -headingSin, 0;
     headingSin, headingCos, 0;
     0, 0, 1] *ᵥ chassisRelativeVelocity

/-- `ChassisKFOdometry`, with a chassis registered. -/
structure ChassisKFOdometry where
  initialXPos : ℝ
  initialYPos : ℝ
  kf : KalmanFilter 6 4
  location : ℝ × ℝ
  orientation : ℝ
  velocity : ℝ × ℝ
  chassisYaw : ℝ
  chassisMeasuredDeltaVelocity : ℝ × ℝ
  lastComputedOdometryTime : UInt32
  prevChassisVelocity : Fin 3 → ℝ

/-- What a call of `update` is given, reads from the chassis, and reads from the clock. -/
structure OdometryCall where
  currTime : UInt32
  chassisVelocity : Fin 3 → ℝ
  chassisYaw : ℝ
  xChassisAccel : ℝ
  yChassisAccel : ℝ

/-- The velocity of a call in the frame of the world. -/
noncomputable def OdometryCall.worldVelocity (c : OdometryCall) : Fin 3 → ℝ :=
  getVelocityWorldRelative c.chassisVelocity c.chassisYaw

namespace ChassisKFOdometry

/-- The constructor.  `prevChassisVelocity` is constructed without a value. -/
noncomputable def construct (initialXPos initialYPos : ℝ) (prevChassisVelocity : Fin 3 → ℝ) :
    ChassisKFOdometry where
  initialXPos
  initialYPos
  kf := (KalmanFilter.construct KF_A KF_C KF_Q KF_R KF_P0).init
    ![initialXPos, 0, 0, initialYPos, 0, 0]
  location := (0, 0)
  orientation := 0
  velocity := (0, 0)
  chassisYaw := 0
  chassisMeasuredDeltaVelocity := (0, 0)
  lastComputedOdometryTime := 0
  prevChassisVelocity

/-- The measured difference of the velocities, filtered. -/
noncomputable def filteredDelta (delta : ℝ × ℝ) (chassisVelocity prevChassisVelocity : Fin 3 → ℝ) :
    ℝ × ℝ :=
  (lowPassFilter delta.1 (chassisVelocity 0 - prevChassisVelocity 0)
      CHASSIS_WHEEL_ACCELERATION_LOW_PASS_ALPHA,
    lowPassFilter delta.2 (chassisVelocity 1 - prevChassisVelocity 1)
      CHASSIS_WHEEL_ACCELERATION_LOW_PASS_ALPHA)

/-- `accelMagnitude`, for a difference of the velocities over `dt` microseconds. -/
noncomputable def accelMagnitude (delta : ℝ × ℝ) (dt : UInt32) : ℝ :=
  √(delta.1 * delta.1 + delta.2 * delta.2) * 1E6 / dt.toNat

/-- `updateMeasurementCovariance`. -/
noncomputable def updateMeasurementCovariance (o : ChassisKFOdometry) (currTime : UInt32)
    (chassisVelocity : Fin 3 → ℝ) : ChassisKFOdometry :=
  let dt := currTime - o.lastComputedOdometryTime
  let o := { o with lastComputedOdometryTime := currTime }
  if o.lastComputedOdometryTime = 0 then o
  else
    let delta :=
      filteredDelta o.chassisMeasuredDeltaVelocity chassisVelocity o.prevChassisVelocity
    let velocityCovariance := accelerationToCovariance (accelMagnitude delta dt)
    let R := Function.update o.kf.R velXEntry velocityCovariance
    { o with
      chassisMeasuredDeltaVelocity := delta
      prevChassisVelocity := chassisVelocity
      kf := { o.kf with R := Function.update R velYEntry velocityCovariance } }

/-- `updateChassisStateFromKF`. -/
def updateChassisStateFromKF (o : ChassisKFOdometry) (chassisYaw : ℝ) : ChassisKFOdometry :=
  { o with
    velocity := (o.kf.xHat 1, o.kf.xHat 4)
    orientation := chassisYaw
    location := (o.kf.xHat 0, o.kf.xHat 3) }

/-- `update`. -/
noncomputable def update
    (inverse : Matrix (Fin 4) (Fin 4) ℝ → Matrix (Fin 4) (Fin 4) ℝ) (o : ChassisKFOdometry)
    (c : OdometryCall) : ChassisKFOdometry :=
  let o := { o with chassisYaw := c.chassisYaw }
  let chassisVelocity := c.worldVelocity
  let o := o.updateMeasurementCovariance c.currTime chassisVelocity
  -- `tap::algorithms::rotateVector`
  let xChassisAccel :=
    c.xChassisAccel * Real.cos c.chassisYaw - c.yChassisAccel * Real.sin c.chassisYaw
  let yChassisAccel :=
    c.xChassisAccel * Real.sin c.chassisYaw + c.yChassisAccel * Real.cos c.chassisYaw
  let y := ![chassisVelocity 0, xChassisAccel, chassisVelocity 1, yChassisAccel]
  let o := { o with kf := o.kf.performUpdate inverse y }
  o.updateChassisStateFromKF c.chassisYaw

/-! ### The table and the filter -/

theorem accelerationToCovariance_bounds (a : ℝ) :
    1 ≤ accelerationToCovariance a ∧ accelerationToCovariance a ≤ 1E2 := by
  apply interpolate_bounds
  · simp [MAX_ACCELERATION]
    norm_num
  · intro p hp
    fin_cases hp <;> norm_num
  · intro p hp
    fin_cases hp <;> norm_num

/-- The table has the covariance one for no acceleration only. -/
theorem accelerationToCovariance_eq_one_iff (a : ℝ) : accelerationToCovariance a = 1 ↔ a ≤ 0 := by
  unfold accelerationToCovariance interpolate
  by_cases hle : a ≤ 0
  · rw [if_pos hle]
    norm_num [hle]
  · rw [if_neg hle, interpolateFrom, MAX_ACCELERATION]
    refine iff_of_false ?_ hle
    by_cases hmax : a ≤ 8.0
    · rw [if_pos hmax]
      norm_num
      exact fun h => hle h.le
    · rw [if_neg hmax, interpolateFrom]
      norm_num

theorem lowPassFilter_alpha (prevValue newValue : ℝ) :
    lowPassFilter prevValue newValue CHASSIS_WHEEL_ACCELERATION_LOW_PASS_ALPHA =
      0.01 * newValue + 0.99 * prevValue := by
  rw [lowPassFilter, CHASSIS_WHEEL_ACCELERATION_LOW_PASS_ALPHA, if_neg (by norm_num)]
  norm_num

/-- The filtered differences to two velocities are the same for the same velocities only. -/
theorem filteredDelta_eq_iff (delta : ℝ × ℝ) (v p q : Fin 3 → ℝ) :
    filteredDelta delta v p = filteredDelta delta v q ↔ p 0 = q 0 ∧ p 1 = q 1 := by
  simp only [filteredDelta, lowPassFilter_alpha, Prod.mk.injEq]
  constructor
  · rintro ⟨hx, hy⟩
    constructor <;> linarith
  · rintro ⟨hx, hy⟩
    rw [hx, hy]
    exact ⟨rfl, rfl⟩

theorem filteredDelta_self (v : Fin 3 → ℝ) : filteredDelta (0, 0) v v = (0, 0) := by
  simp [filteredDelta, lowPassFilter_alpha]

/-- A covariance of one is read from the table for no acceleration, over any time. -/
theorem covariance_eq_one_iff (delta : ℝ × ℝ) {dt : UInt32} (hdt : dt ≠ 0) :
    accelerationToCovariance (accelMagnitude delta dt) = 1 ↔ delta = (0, 0) := by
  have hpos : (0 : ℝ) < dt.toNat := by
    have h : dt.toNat ≠ 0 := fun h => hdt (UInt32.toNat_inj.1 h)
    exact_mod_cast Nat.pos_of_ne_zero h
  rw [accelerationToCovariance_eq_one_iff, accelMagnitude]
  constructor
  · intro h
    have hsq : 0 ≤ delta.1 * delta.1 + delta.2 * delta.2 :=
      add_nonneg (mul_self_nonneg _) (mul_self_nonneg _)
    have hsqrt : √(delta.1 * delta.1 + delta.2 * delta.2) ≤ 0 := by
      by_contra hlt
      have := div_pos (mul_pos (not_le.1 hlt) (by norm_num : (0 : ℝ) < 1E6)) hpos
      linarith
    have hzero : delta.1 * delta.1 + delta.2 * delta.2 = 0 :=
      (Real.sqrt_eq_zero hsq).1 (le_antisymm hsqrt (Real.sqrt_nonneg _))
    obtain ⟨hx, hy⟩ := (mul_self_add_mul_self_eq_zero).1 hzero
    exact Prod.ext hx hy
  · rintro rfl
    simp

/-! ### The measurement covariance -/

/-- The configured covariance, with `v` for the two velocities. -/
noncomputable def velocityCovariances (v : ℝ) : Fin (4 * 4) → ℝ :=
  Function.update (Function.update KF_R velXEntry v) velYEntry v

theorem velocityCovariances_one : velocityCovariances 1 = KF_R := by
  funext i
  fin_cases i <;> norm_num [velocityCovariances, Function.update, KF_R, velXEntry, velYEntry]

theorem velocityCovariances_velX (v : ℝ) : velocityCovariances v velXEntry = v := by
  rw [velocityCovariances, Function.update_of_ne (by decide), Function.update_self]

theorem update_velocityCovariances (v w : ℝ) :
    Function.update (Function.update (velocityCovariances v) velXEntry w) velYEntry w =
      velocityCovariances w := by
  rw [velocityCovariances, Function.update_comm (by decide : velYEntry ≠ velXEntry),
    Function.update_idem, Function.update_idem]
  rfl

theorem asMatrix_velocityCovariances (v : ℝ) :
    asMatrix (velocityCovariances v) = Matrix.diagonal ![v, 1.2, v, 1.2] := by
  ext i j
  fin_cases i <;> fin_cases j <;> rfl

/-! ### What a call does -/

variable {inverse : Matrix (Fin 4) (Fin 4) ℝ → Matrix (Fin 4) (Fin 4) ℝ} {o : ChassisKFOdometry}
  {c : OdometryCall}

/-- What the measurement covariance is computed from, and the covariance: the filter's own update
leaves them. -/
theorem update_measurement (inverse : Matrix (Fin 4) (Fin 4) ℝ → Matrix (Fin 4) (Fin 4) ℝ)
    (o : ChassisKFOdometry) (c : OdometryCall) :
    let measured := o.updateMeasurementCovariance c.currTime c.worldVelocity
    (o.update inverse c).lastComputedOdometryTime = c.currTime ∧
      (o.update inverse c).chassisMeasuredDeltaVelocity = measured.chassisMeasuredDeltaVelocity ∧
      (o.update inverse c).prevChassisVelocity = measured.prevChassisVelocity ∧
      (o.update inverse c).kf.R = measured.kf.R := by
  intro measured
  by_cases hzero : c.currTime = 0 <;>
    simp [measured, update, updateMeasurementCovariance, updateChassisStateFromKF, hzero,
      KalmanFilter.performUpdate_R]

variable (inverse) in
/-- The guard: nothing is measured at the reading zero. -/
theorem update_of_eq_zero (hzero : c.currTime = 0) :
    (o.update inverse c).chassisMeasuredDeltaVelocity = o.chassisMeasuredDeltaVelocity ∧
      (o.update inverse c).prevChassisVelocity = o.prevChassisVelocity ∧
      (o.update inverse c).kf.R = o.kf.R := by
  obtain ⟨-, hdelta, hprev, hR⟩ := update_measurement inverse o c
  rw [hdelta, hprev, hR]
  simp [updateMeasurementCovariance, hzero]

variable (inverse) in
/-- Past the guard. -/
theorem update_of_ne_zero (hzero : c.currTime ≠ 0) {v : ℝ} (hR : o.kf.R = velocityCovariances v) :
    let delta := filteredDelta o.chassisMeasuredDeltaVelocity c.worldVelocity o.prevChassisVelocity
    (o.update inverse c).chassisMeasuredDeltaVelocity = delta ∧
      (o.update inverse c).prevChassisVelocity = c.worldVelocity ∧
      (o.update inverse c).kf.R = velocityCovariances (accelerationToCovariance
        (accelMagnitude delta (c.currTime - o.lastComputedOdometryTime))) := by
  intro delta
  obtain ⟨-, hdelta, hprev, hR'⟩ := update_measurement inverse o c
  rw [hdelta, hprev, hR']
  simp only [updateMeasurementCovariance, if_neg hzero, hR, delta]
  exact ⟨trivial, trivial, update_velocityCovariances _ _⟩

/-! ### The noise adaptation -/

/-- **The noise adaptation at a call**, with the previous call if there is one.  The first call
leaves the covariance as configured; a later one measures the acceleration from the previous call
on; and the covariance differs from the configured one in the two velocities only, which are equal
and bounded. -/
def AdaptsAt (inverse : Matrix (Fin 4) (Fin 4) ℝ → Matrix (Fin 4) (Fin 4) ℝ)
    (s : ChassisKFOdometry × Option OdometryCall) (c : OdometryCall) : Prop :=
  (s.2 = none → (s.1.update inverse c).kf.R = KF_R) ∧
    (∀ p, s.2 = some p →
      (s.1.update inverse c).chassisMeasuredDeltaVelocity =
        filteredDelta s.1.chassisMeasuredDeltaVelocity c.worldVelocity p.worldVelocity ∧
      (s.1.update inverse c).kf.R velXEntry = accelerationToCovariance
        (accelMagnitude (s.1.update inverse c).chassisMeasuredDeltaVelocity
          (c.currTime - p.currTime))) ∧
    ∃ v, 1 ≤ v ∧ v ≤ 1E2 ∧
      asMatrix (s.1.update inverse c).kf.R = Matrix.diagonal ![v, 1.2, v, 1.2]

/-- A step of a run, which remembers the call. -/
noncomputable def next (inverse : Matrix (Fin 4) (Fin 4) ℝ → Matrix (Fin 4) (Fin 4) ℝ)
    (s : ChassisKFOdometry × Option OdometryCall) (c : OdometryCall) :
    ChassisKFOdometry × Option OdometryCall :=
  (s.1.update inverse c, some c)

/-- The calls come at increasing times. -/
def Later (s : ChassisKFOdometry × Option OdometryCall) (c : OdometryCall) : Prop :=
  ∀ p, s.2 = some p → p.currTime < c.currTime

/-- The members are those of the previous call. -/
structure Follows (s : ChassisKFOdometry × Option OdometryCall) (p : OdometryCall) : Prop where
  prev : s.2 = some p
  time : s.1.lastComputedOdometryTime = p.currTime
  velocityX : s.1.prevChassisVelocity 0 = p.worldVelocity 0
  velocityY : s.1.prevChassisVelocity 1 = p.worldVelocity 1
  covariance : ∃ v, s.1.kf.R = velocityCovariances v

/-- The shape of the covariance. -/
theorem shape_of_eq {R : Fin (4 * 4) → ℝ} {a : ℝ}
    (hR : R = velocityCovariances (accelerationToCovariance a)) :
    ∃ v, 1 ≤ v ∧ v ≤ 1E2 ∧ asMatrix R = Matrix.diagonal ![v, 1.2, v, 1.2] := by
  obtain ⟨hlo, hhi⟩ := accelerationToCovariance_bounds a
  exact ⟨_, hlo, hhi, by rw [hR, asMatrix_velocityCovariances]⟩

theorem shape_configured :
    ∃ v : ℝ, 1 ≤ v ∧ v ≤ 1E2 ∧ asMatrix KF_R = Matrix.diagonal ![v, 1.2, v, 1.2] :=
  ⟨1, le_rfl, by norm_num, by rw [← velocityCovariances_one, asMatrix_velocityCovariances]⟩

/-- A later call measures from the members; what it leaves are its own. -/
theorem later_call {s : ChassisKFOdometry × Option OdometryCall} {p : OdometryCall}
    (hs : Follows s p) (hlater : Later s c) :
    AdaptsAt inverse s c ∧ Follows (next inverse s c) c := by
  obtain ⟨v, hv⟩ := hs.covariance
  have hlt : p.currTime < c.currTime := hlater p hs.prev
  have hne : c.currTime ≠ 0 := by
    rintro hzero
    rw [hzero, UInt32.lt_iff_toNat_lt] at hlt
    exact absurd hlt (Nat.not_lt_zero _)
  obtain ⟨hdelta, hprev, hR⟩ := update_of_ne_zero inverse hne hv
  refine ⟨⟨fun h => ?_, fun p' hp' => ?_, shape_of_eq hR⟩, rfl, ?_, ?_, ?_, _, hR⟩
  · exact absurd (hs.prev.symm.trans h) nofun
  · obtain rfl : p = p' := Option.some.inj (hs.prev.symm.trans hp')
    rw [hR, hdelta, velocityCovariances_velX, hs.time]
    exact ⟨(filteredDelta_eq_iff _ _ _ _).2 ⟨hs.velocityX, hs.velocityY⟩, rfl⟩
  · exact (update_measurement inverse s.1 c).1
  · exact congrFun hprev 0
  · exact congrFun hprev 1

theorem each_of_follows {s : ChassisKFOdometry × Option OdometryCall} {p : OdometryCall}
    {calls : List OdometryCall} (hs : Follows s p) (hlater : Each (next inverse) Later s calls) :
    Each (next inverse) (AdaptsAt inverse) s calls := by
  have hstep : ∀ s c, (∃ p, Follows s p) → Later s c →
      AdaptsAt inverse s c ∧ ∃ p, Follows (next inverse s c) p :=
    fun _ _ ⟨_, hs⟩ h => ⟨(later_call hs h).1, _, (later_call hs h).2⟩
  exact Each.of_inv hstep ⟨p, hs⟩ hlater

theorem each_later {s : ChassisKFOdometry × Option OdometryCall} {calls : List OdometryCall}
    (hs : ∀ p, s.2 = some p → ∀ c ∈ calls, p.currTime < c.currTime)
    (hcalls : calls.Pairwise fun c d => c.currTime < d.currTime) :
    Each (next inverse) Later s calls :=
  each_of_pairwise (fun (s : ChassisKFOdometry × Option OdometryCall) p => s.2 = some p)
    (fun _ _ _ h => Or.inl (Option.some.inj h).symm) hs hcalls

section FirstCall

variable {initialXPos initialYPos : ℝ} {prev : Fin 3 → ℝ}

/-- A call that the guard does not stop adapts the noise if the velocity has not changed since the
construction. -/
theorem first_call_of_ne_zero (hzero : c.currTime ≠ 0) :
    AdaptsAt inverse (construct initialXPos initialYPos prev, none) c ↔
      c.worldVelocity 0 = prev 0 ∧ c.worldVelocity 1 = prev 1 := by
  obtain ⟨-, -, hR⟩ := update_of_ne_zero inverse
    (o := construct initialXPos initialYPos prev) hzero velocityCovariances_one.symm
  have hconf : (update inverse (construct initialXPos initialYPos prev) c).kf.R = KF_R ↔
      filteredDelta (0, 0) c.worldVelocity prev = (0, 0) := by
    rw [hR, ← velocityCovariances_one]
    refine Iff.trans ⟨fun h => ?_, fun h => congrArg velocityCovariances h⟩
      (covariance_eq_one_iff _ (show c.currTime - 0 ≠ 0 by simpa using hzero))
    simpa only [velocityCovariances_velX] using congrFun h velXEntry
  have hsame : filteredDelta (0, 0) c.worldVelocity prev = (0, 0) ↔
      c.worldVelocity 0 = prev 0 ∧ c.worldVelocity 1 = prev 1 := by
    have hiff := filteredDelta_eq_iff (0, 0) c.worldVelocity prev c.worldVelocity
    rw [filteredDelta_self] at hiff
    exact hiff.trans (and_congr eq_comm eq_comm)
  constructor
  · rintro ⟨hfirst, -⟩
    exact hsame.1 (hconf.1 (hfirst rfl))
  · intro h
    exact ⟨fun _ => hconf.2 (hsame.2 h), nofun, shape_of_eq hR⟩

/-- A call that the guard stops leaves the covariance as configured. -/
theorem first_call_of_eq_zero (hzero : c.currTime = 0) :
    AdaptsAt inverse (construct initialXPos initialYPos prev, none) c := by
  obtain ⟨-, -, hR⟩ := update_of_eq_zero inverse
    (o := construct initialXPos initialYPos prev) hzero
  exact ⟨fun _ => hR, nofun, hR ▸ shape_configured⟩

/-- What a first call leaves, if the velocity has not changed since the construction. -/
theorem follows_first_call (h : c.worldVelocity 0 = prev 0 ∧ c.worldVelocity 1 = prev 1) :
    Follows (next inverse (construct initialXPos initialYPos prev, none) c) c := by
  have htime := (update_measurement inverse (construct initialXPos initialYPos prev) c).1
  by_cases hzero : c.currTime = 0
  · obtain ⟨-, hprev, hR⟩ := update_of_eq_zero inverse
      (o := construct initialXPos initialYPos prev) hzero
    exact ⟨rfl, htime, (congrFun hprev 0).trans h.1.symm, (congrFun hprev 1).trans h.2.symm,
      1, hR.trans velocityCovariances_one.symm⟩
  · obtain ⟨-, hprev, hR⟩ := update_of_ne_zero inverse
      (o := construct initialXPos initialYPos prev) hzero velocityCovariances_one.symm
    exact ⟨rfl, htime, congrFun hprev 0, congrFun hprev 1, _, hR⟩

/-- After a call that the guard has stopped, the next one measures from the construction on. -/
theorem second_call_of_eq_zero {d : OdometryCall} (hzero : c.currTime = 0) (hd : d.currTime ≠ 0)
    (h : AdaptsAt inverse (next inverse (construct initialXPos initialYPos prev, none) c) d) :
    c.worldVelocity 0 = prev 0 ∧ c.worldVelocity 1 = prev 1 := by
  obtain ⟨hdelta, hprev, hR⟩ := update_of_eq_zero inverse
    (o := construct initialXPos initialYPos prev) hzero
  have hcall := (update_of_ne_zero inverse hd
    (hR.trans velocityCovariances_one.symm)).1
  have hspec := (h.2.1 c rfl).1
  have heq : filteredDelta (0, 0) d.worldVelocity prev =
      filteredDelta (0, 0) d.worldVelocity c.worldVelocity := by
    rw [hdelta, hprev] at hcall
    rw [next, hdelta] at hspec
    exact hcall.symm.trans hspec
  obtain ⟨hx, hy⟩ := (filteredDelta_eq_iff _ _ _ _).1 heq
  exact ⟨hx.symm, hy.symm⟩

end FirstCall

/-- **When the noise adaptation is right**, for calls at increasing times: there is only one call,
at the reading zero of the clock, or the first call finds the velocity that the object was
constructed with. -/
theorem noiseAdaptation_iff (inverse : Matrix (Fin 4) (Fin 4) ℝ → Matrix (Fin 4) (Fin 4) ℝ)
    (initialXPos initialYPos : ℝ) (prev : Fin 3 → ℝ) (calls : List OdometryCall)
    (hcalls : calls.Pairwise fun c d => c.currTime < d.currTime) :
    Each (next inverse) (AdaptsAt inverse) (construct initialXPos initialYPos prev, none) calls ↔
      ∀ c rest, calls = c :: rest → (c.currTime = 0 ∧ rest = []) ∨
        (c.worldVelocity 0 = prev 0 ∧ c.worldVelocity 1 = prev 1) := by
  cases calls with
  | nil => exact iff_of_true trivial nofun
  | cons c rest =>
    have hlater : Each (next inverse) Later (construct initialXPos initialYPos prev, none)
        (c :: rest) := each_later nofun hcalls
    have hrest : c.worldVelocity 0 = prev 0 ∧ c.worldVelocity 1 = prev 1 →
        Each (next inverse) (AdaptsAt inverse)
          (next inverse (construct initialXPos initialYPos prev, none) c) rest :=
      fun h => each_of_follows (follows_first_call h) hlater.2
    by_cases hzero : c.currTime = 0
    · have hfirst : AdaptsAt inverse (construct initialXPos initialYPos prev, none) c :=
        first_call_of_eq_zero hzero
      constructor
      · rintro h c' rest' heq
        cases heq
        cases rest with
        | nil => exact Or.inl ⟨hzero, rfl⟩
        | cons d rest =>
          have hd : d.currTime ≠ 0 := by
            have hlt := (List.pairwise_cons.1 hcalls).1 d List.mem_cons_self
            rintro hd
            rw [hzero, hd] at hlt
            exact absurd hlt (UInt32.lt_irrefl 0)
          exact Or.inr (second_call_of_eq_zero hzero hd h.2.1)
      · intro h
        rcases h c rest rfl with ⟨-, rfl⟩ | h
        · exact ⟨hfirst, trivial⟩
        · exact ⟨hfirst, hrest h⟩
    · have hfirst : AdaptsAt inverse (construct initialXPos initialYPos prev, none) c ↔
          c.worldVelocity 0 = prev 0 ∧ c.worldVelocity 1 = prev 1 := first_call_of_ne_zero hzero
      constructor
      · rintro h c' rest' heq
        cases heq
        exact Or.inr (hfirst.1 h.1)
      · intro h
        rcases h c rest rfl with ⟨hzero', -⟩ | h
        · exact absurd hzero' hzero
        · exact ⟨hfirst.2 h, hrest h⟩

/-- Two calls of a robot that moves faster and faster, the first at the speed that the memory
held. -/
theorem noiseAdaptation_iff_moving :
    Each (next fun M => M) (AdaptsAt fun M => M) (construct 0 0 ![1, 0, 0], none)
      [⟨1000, ![1, 0, 0], 0, 0, 0⟩, ⟨3000, ![2, 0, 0], 0, 0, 0⟩] := by
  refine (noiseAdaptation_iff (fun M => M) 0 0 ![1, 0, 0] _ (by simp)).2 ?_
  rintro c rest heq
  cases heq
  right
  norm_num [OdometryCall.worldVelocity, getVelocityWorldRelative, Matrix.mulVec, dotProduct,
    Fin.sum_univ_three]

/-- A robot that moves at the first call, after a millisecond. -/
theorem noiseAdaptation_moving :
    ¬ Each (next fun M => M) (AdaptsAt fun M => M) (construct 0 0 0, none)
      [⟨1000, ![1, 0, 0], 0, 0, 0⟩] := by
  rintro ⟨h, -⟩
  obtain ⟨hx, -⟩ := (first_call_of_ne_zero (by decide)).1 h
  norm_num [OdometryCall.worldVelocity, getVelocityWorldRelative, Matrix.mulVec, dotProduct,
    Fin.sum_univ_three] at hx

/-! ### The covariance of the state -/

/-- The covariances of the filter, of which the measurement's keeps its shape. -/
structure Inv (o : ChassisKFOdometry) : Prop where
  covariance : o.kf.CovarianceInv
  measurement : ∃ v, o.kf.R = velocityCovariances v

theorem posDef_velocityCovariances {v : ℝ} (hv : 1 ≤ v) :
    (asMatrix (velocityCovariances v)).PosDef := by
  rw [asMatrix_velocityCovariances]
  apply Matrix.PosDef.diagonal
  intro i
  fin_cases i <;> norm_num <;> linarith

theorem posSemidef_diagonal_of_nonneg {d : Fin 6 → ℝ} (h : ∀ i, 0 ≤ d i) :
    (Matrix.diagonal d).PosSemidef :=
  Matrix.posSemidef_diagonal_iff.2 h

theorem inv_construct (initialXPos initialYPos : ℝ) (prev : Fin 3 → ℝ) :
    (construct initialXPos initialYPos prev).Inv := by
  refine ⟨⟨?_, ?_, ?_⟩, 1, velocityCovariances_one.symm⟩
  · apply posSemidef_diagonal_of_nonneg
    intro i
    fin_cases i <;> norm_num
  · apply posSemidef_diagonal_of_nonneg
    intro i
    fin_cases i <;> norm_num
  · have hone := posDef_velocityCovariances le_rfl
    rw [velocityCovariances_one] at hone
    exact hone

/-- Of the filter, only the measurement covariance changes, and it keeps its shape. -/
theorem updateMeasurementCovariance_kf {v : ℝ} (hR : o.kf.R = velocityCovariances v)
    (currTime : UInt32) (chassisVelocity : Fin 3 → ℝ) :
    ∃ w, (w = v ∨ 1 ≤ w) ∧ (o.updateMeasurementCovariance currTime chassisVelocity).kf =
      { o.kf with R := velocityCovariances w } := by
  by_cases hzero : currTime = 0
  · refine ⟨v, Or.inl rfl, ?_⟩
    simp [ChassisKFOdometry.updateMeasurementCovariance, hzero, ← hR]
  · let acceleration := accelMagnitude
      (filteredDelta o.chassisMeasuredDeltaVelocity chassisVelocity o.prevChassisVelocity)
      (currTime - o.lastComputedOdometryTime)
    refine ⟨accelerationToCovariance acceleration,
      Or.inr (accelerationToCovariance_bounds acceleration).1, ?_⟩
    rw [← update_velocityCovariances v, ← hR]
    simp only [ChassisKFOdometry.updateMeasurementCovariance, if_neg hzero, acceleration]

theorem Inv.updateMeasurementCovariance (h : o.Inv) (currTime : UInt32)
    (chassisVelocity : Fin 3 → ℝ) :
    (o.updateMeasurementCovariance currTime chassisVelocity).Inv := by
  obtain ⟨v, hv⟩ := h.measurement
  obtain ⟨w, hw, hkf⟩ := updateMeasurementCovariance_kf hv currTime chassisVelocity
  refine ⟨?_, w, by rw [hkf]⟩
  rw [hkf]
  refine ⟨h.covariance.P, h.covariance.Q, ?_⟩
  rcases hw with rfl | hw
  · rw [← hv]
    exact h.covariance.R
  · exact posDef_velocityCovariances hw

theorem Inv.update
    (hinv : ∀ M : Matrix (Fin 4) (Fin 4) ℝ, IsUnit M → inverse M = M⁻¹) (h : o.Inv)
    (c : OdometryCall) : (o.update inverse c).Inv := by
  have hyaw : ({ o with chassisYaw := c.chassisYaw } : ChassisKFOdometry).Inv :=
    ⟨h.covariance, h.measurement⟩
  have hmeasured := hyaw.updateMeasurementCovariance c.currTime c.worldVelocity
  refine ⟨hmeasured.covariance.performUpdate hinv _, ?_⟩
  obtain ⟨v, hv⟩ := hmeasured.measurement
  exact ⟨v, (KalmanFilter.performUpdate_R _ _).trans hv⟩

/-- **The filter is well posed in every run**, at any times: the covariance of the state is positive
semidefinite, and the matrix that the next update inverts is invertible. -/
theorem covariance_after_calls
    (hinv : ∀ M : Matrix (Fin 4) (Fin 4) ℝ, IsUnit M → inverse M = M⁻¹)
    (initialXPos initialYPos : ℝ) (prev : Fin 3 → ℝ) (calls : List OdometryCall)
    (c : OdometryCall) :
    let o := after (update inverse) (construct initialXPos initialYPos prev) calls
    let measured := o.updateMeasurementCovariance c.currTime c.worldVelocity
    o.kf.P.PosSemidef ∧
      IsUnit (measured.kf.innovation
        (measured.kf.A * measured.kf.P * measured.kf.Aᵀ + measured.kf.Q)) := by
  intro o measured
  have h : o.Inv :=
    inv_after (fun _ c h => h.update hinv c) (inv_construct initialXPos initialYPos prev)
  exact ⟨h.covariance.P,
    (h.updateMeasurementCovariance c.currTime c.worldVelocity).covariance.isUnit_innovation⟩

end ChassisKFOdometry

end Aimbots.Odometry
