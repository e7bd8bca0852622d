import Aimbots.Library.Kalman
import Aimbots.Library.Numerals
import Aimbots.Library.Run
import Mathlib.LinearAlgebra.Matrix.Notation
import Mathlib.Tactic.FinCases
import Mathlib.Tactic.Ring

/-!
# `filters/kinematic_kalman.cpp`

A filter of a position, its velocity and its acceleration, with exact arithmetic.  `update` predicts
by the time that has passed and then weighs in a measurement; the matrix it inverts is inverted by a
library, `asInverted`, about which only the inverses of invertible matrices are assumed.

The covariance is that of a general filter: `predict_P` and `update_P` say that the two steps are
`Kalman.prior` and `Kalman.posterior`, and the invariant `Inv` is kept by each call.
-/

namespace Aimbots.Filters

open Matrix
open scoped Numerals

/-- `Vector3f`. -/
abbrev Vector3f := Fin 3 → ℝ

/-- `Matrix3f`. -/
abbrev Matrix3f := Matrix (Fin 3) (Fin 3) ℝ

/-! ### The measurement -/

namespace StateVector

/-- `calcIntegral`. -/
def calcIntegral (x0 v1 dt : ℝ) : ℝ := x0 + v1 * dt

/-- `calcDerivative`.  The quotient over no time is of no meaning, and nothing below depends on
it. -/
noncomputable def calcDerivative (x0 x1 dt : ℝ) : ℝ := (x1 - x0) / dt

/-- `KinematicStateVector::updateFromPosition`, over a given time. -/
noncomputable def updateFromPosition (z : Vector3f) (x dt : ℝ) : Vector3f :=
  let v1 := calcDerivative (z 0) x dt
  let a1 := calcDerivative (z 1) v1 dt
  ![x, v1, a1]

/-- `KinematicStateVector::updateFromVelocity`, over a given time. -/
noncomputable def updateFromVelocity (z : Vector3f) (v : ℝ) (updateLowerOrderTerms : Bool)
    (dt : ℝ) : Vector3f :=
  let x1 := calcIntegral (z 0) v dt
  let a1 := calcDerivative (z 1) v dt
  ![if updateLowerOrderTerms then x1 else z 0, v, a1]

/-- `KinematicStateVector::updateFromAcceleration`, over a given time. -/
def updateFromAcceleration (z : Vector3f) (a : ℝ) (updateLowerOrderTerms : Bool) (dt : ℝ) :
    Vector3f :=
  if updateLowerOrderTerms then
    let v1 := calcIntegral (z 1) a dt
    let x1 := calcIntegral (z 0) v1 dt
    ![x1, v1, a]
  else ![z 0, z 1, a]

end StateVector

/-! ### The filter -/

/-- `KinematicKalman`, with the state vector of `z`. -/
structure KinematicKalman where
  z : Vector3f
  x : Vector3f
  P : Matrix3f
  H : Matrix3f
  Q : Matrix3f
  R : Matrix3f

namespace KinematicKalman

/-- `stateSpaceMatrix`. -/
noncomputable def stateSpaceMatrix (dt : ℝ) : Matrix3f :=
  !![1, dt, 1 / 2 * dt ^ 2;
     0, 1, dt;
     0, 0, 1]

/-- `predict`. -/
noncomputable def predict (k : KinematicKalman) (dt : ℝ) : KinematicKalman :=
  let F := stateSpaceMatrix dt
  { k with
    x := F *ᵥ k.x
    P := F * k.P * Fᵀ + k.Q }

/-- `getFuturePrediction`: the prediction, and the filter that the call leaves. -/
noncomputable def getFuturePrediction (k : KinematicKalman) (dt : ℝ) : Vector3f × KinematicKalman :=
  let F := stateSpaceMatrix dt
  (F *ᵥ k.x, k)

/-- The measurement of `update`, in its state vector. -/
noncomputable def measure (z : Vector3f) (dt zPos : ℝ) (zVel zAcc : Option ℝ) : Vector3f :=
  let z := StateVector.updateFromPosition z zPos dt
  let z := match zVel with
    | some v => StateVector.updateFromVelocity z v false dt
    | none => z
  match zAcc with
  | some a => StateVector.updateFromAcceleration z a false dt
  | none => z

/-- The matrix `S` that `update` inverts. -/
def innovation (k : KinematicKalman) : Matrix3f := k.H * (k.P * k.Hᵀ) + k.R

/-- `update`. -/
noncomputable def update (asInverted : Matrix3f → Matrix3f) (k : KinematicKalman) (dt zPos : ℝ)
    (zVel zAcc : Option ℝ) : KinematicKalman :=
  let k := k.predict dt
  let z := measure k.z dt zPos zVel zAcc
  let PHt := k.P * k.Hᵀ
  let y := z - k.H *ᵥ k.x
  let S := k.innovation
  let K := PHt * asInverted S
  { k with
    z
    x := k.x + K *ᵥ y
    P := (1 - K * k.H) * k.P }

/-- A call of the filter. -/
inductive Call
  | update (dt zPos : ℝ) (zVel zAcc : Option ℝ)
  | predict (dt : ℝ)

/-- The filter after a call. -/
noncomputable def call (asInverted : Matrix3f → Matrix3f) (k : KinematicKalman) :
    Call → KinematicKalman
  | .update dt zPos zVel zAcc => k.update asInverted dt zPos zVel zAcc
  | .predict dt => k.predict dt

/-! ### The state -/

/-- Two steps are one step over the sum of the times. -/
theorem stateSpaceMatrix_mul (a b : ℝ) :
    stateSpaceMatrix b * stateSpaceMatrix a = stateSpaceMatrix (a + b) := by
  ext i j
  fin_cases i <;> fin_cases j <;>
    simp [stateSpaceMatrix, Matrix.mul_apply, Fin.sum_univ_three]
  ring

theorem predict_predict_x (k : KinematicKalman) (a b : ℝ) :
    ((k.predict a).predict b).x = (k.predict (a + b)).x := by
  simp only [predict]
  rw [Matrix.mulVec_mulVec, stateSpaceMatrix_mul]

/-! ### The covariance -/

/-- The covariances that the filter starts with, and keeps. -/
structure Inv (k : KinematicKalman) : Prop where
  P : k.P.PosSemidef
  Q : k.Q.PosSemidef
  R : k.R.PosDef

section

variable {asInverted : Matrix3f → Matrix3f} {k : KinematicKalman}

theorem predict_P (k : KinematicKalman) (dt : ℝ) :
    (k.predict dt).P = Kalman.prior (stateSpaceMatrix dt) k.P k.Q := rfl

theorem Inv.predict (h : k.Inv) (dt : ℝ) : (k.predict dt).Inv := by
  refine ⟨?_, h.Q, h.R⟩
  rw [predict_P]
  exact Kalman.prior_posSemidef h.P h.Q _

theorem Inv.isUnit_innovation (h : k.Inv) : IsUnit k.innovation :=
  (Kalman.innovation_posDef h.P h.R k.H).isUnit

variable (hinv : ∀ M : Matrix3f, IsUnit M → asInverted M = M⁻¹)
include hinv

/-- What `update` leaves of the predicted covariance. -/
theorem update_P (h : k.Inv) (dt zPos : ℝ) (zVel zAcc : Option ℝ) :
    (k.update asInverted dt zPos zVel zAcc).P =
      Kalman.posterior (k.predict dt).P k.H k.R := by
  have hS := hinv _ (h.predict dt).isUnit_innovation
  simp only [update, hS]
  rfl

theorem Inv.update (h : k.Inv) (dt zPos : ℝ) (zVel zAcc : Option ℝ) :
    (k.update asInverted dt zPos zVel zAcc).Inv := by
  refine ⟨?_, h.Q, h.R⟩
  rw [update_P hinv h]
  exact Kalman.posterior_posSemidef (h.predict dt).P h.R k.H

theorem Inv.call (h : k.Inv) (c : Call) : (k.call asInverted c).Inv := by
  cases c with
  | update dt zPos zVel zAcc => exact h.update hinv dt zPos zVel zAcc
  | predict dt => exact h.predict dt

theorem sub_update_posSemidef (h : k.Inv) (dt zPos : ℝ) (zVel zAcc : Option ℝ) :
    ((k.predict dt).P - (k.update asInverted dt zPos zVel zAcc).P).PosSemidef := by
  rw [update_P hinv h]
  exact Kalman.sub_posterior_posSemidef (h.predict dt).P h.R k.H

end

/-- **The covariance of the filter after any calls**: it is positive semidefinite, the matrix that
an update inverts is invertible, and an update does not increase the predicted covariance.
Predictions compose, and `getFuturePrediction` is the state that `predict` would produce. -/
theorem covariance_after (asInverted : Matrix3f → Matrix3f)
    (hinv : ∀ M : Matrix3f, IsUnit M → asInverted M = M⁻¹) (k : KinematicKalman)
    (hP : k.P.PosSemidef) (hQ : k.Q.PosSemidef) (hR : k.R.PosDef) (calls : List Call) :
    (Run.after (call asInverted) k calls).P.PosSemidef ∧
      (∀ dt, IsUnit ((Run.after (call asInverted) k calls).predict dt).innovation) ∧
      (∀ dt zPos zVel zAcc, (((Run.after (call asInverted) k calls).predict dt).P -
        ((Run.after (call asInverted) k calls).update asInverted dt zPos zVel zAcc).P).PosSemidef) ∧
      (∀ a b, (((Run.after (call asInverted) k calls).predict a).predict b).x =
        ((Run.after (call asInverted) k calls).predict (a + b)).x) ∧
      ∀ dt, (Run.after (call asInverted) k calls).getFuturePrediction dt =
        (((Run.after (call asInverted) k calls).predict dt).x,
          Run.after (call asInverted) k calls) := by
  have hafter : (Run.after (call asInverted) k calls).Inv :=
    Run.inv_after (fun _ c hs => hs.call hinv c) ⟨hP, hQ, hR⟩
  exact ⟨hafter.P, fun dt => (hafter.predict dt).isUnit_innovation,
    sub_update_posSemidef hinv hafter, predict_predict_x _, fun dt => rfl⟩

/-- A filter that is uncertain of its state and of its model, and measures with noise. -/
theorem covariance_after_uncertain :
    (Run.after (call fun M => M⁻¹) ⟨0, 0, 1, 1, 1, 1⟩
      [.update 1 2 none (some 3), .predict 1]).P.PosSemidef :=
  (covariance_after (fun M => M⁻¹) (fun _ _ => rfl) ⟨0, 0, 1, 1, 1, 1⟩ .one .one .one
    [.update 1 2 none (some 3), .predict 1]).1

end KinematicKalman

end Aimbots.Filters
