import Aimbots.Library.Kalman

/-!
# `tap/algorithms/kalman_filter.hpp`

The filter of taproot, for any numbers of states and of inputs, with exact arithmetic.  The matrices
are those of the constructor, but the measurement covariance `R` is handed out as the array of its
entries, row by row, for the caller to change.  The inverse is the one of a library.

`performUpdate_P` is the step of the covariance in the terms of `Kalman`; `CovarianceInv` is the
invariant that it keeps for as long as `R` is left positive definite.
-/

namespace Aimbots.Tap

open Matrix

/-- The entry of a square matrix in row `i` and column `j`, from the array of its rows. -/
def asMatrix {n : ℕ} (data : Fin (n * n) → ℝ) : Matrix (Fin n) (Fin n) ℝ :=
  Matrix.of fun i j => data (finProdFinEquiv (i, j))

/-- `KalmanFilter<STATES, INPUTS>`; `At`, `Ct` and `I` are computed from the other members. -/
structure KalmanFilter (STATES INPUTS : ℕ) where
  A : Matrix (Fin STATES) (Fin STATES) ℝ
  C : Matrix (Fin INPUTS) (Fin STATES) ℝ
  Q : Matrix (Fin STATES) (Fin STATES) ℝ
  R : Fin (INPUTS * INPUTS) → ℝ
  xHat : Fin STATES → ℝ
  P : Matrix (Fin STATES) (Fin STATES) ℝ
  P0 : Matrix (Fin STATES) (Fin STATES) ℝ
  initialized : Bool

namespace KalmanFilter

variable {STATES INPUTS : ℕ}

/-- The constructor. -/
def construct (A : Matrix (Fin STATES) (Fin STATES) ℝ) (C : Matrix (Fin INPUTS) (Fin STATES) ℝ)
    (Q : Matrix (Fin STATES) (Fin STATES) ℝ) (R : Fin (INPUTS * INPUTS) → ℝ)
    (P0 : Matrix (Fin STATES) (Fin STATES) ℝ) : KalmanFilter STATES INPUTS :=
  ⟨A, C, Q, R, 0, P0, P0, false⟩

/-- `init`. -/
def init (k : KalmanFilter STATES INPUTS) (initialX : Fin STATES → ℝ) :
    KalmanFilter STATES INPUTS :=
  { k with
    xHat := initialX
    P := k.P0
    initialized := true }

/-- The matrix that `performUpdate` inverts, for the predicted covariance `P`. -/
def innovation (k : KalmanFilter STATES INPUTS) (P : Matrix (Fin STATES) (Fin STATES) ℝ) :
    Matrix (Fin INPUTS) (Fin INPUTS) ℝ :=
  k.C * P * k.Cᵀ + asMatrix k.R

/-- `performUpdate`. -/
def performUpdate
    (inverse : Matrix (Fin INPUTS) (Fin INPUTS) ℝ → Matrix (Fin INPUTS) (Fin INPUTS) ℝ)
    (k : KalmanFilter STATES INPUTS) (y : Fin INPUTS → ℝ) : KalmanFilter STATES INPUTS :=
  if !k.initialized then k
  else
    let xHat := k.A *ᵥ k.xHat
    let P := k.A * k.P * k.Aᵀ + k.Q
    let K := P * k.Cᵀ * inverse (k.innovation P)
    { k with
      xHat := xHat + K *ᵥ (y - k.C *ᵥ xHat)
      P := (1 - K * k.C) * P }

variable {inverse : Matrix (Fin INPUTS) (Fin INPUTS) ℝ → Matrix (Fin INPUTS) (Fin INPUTS) ℝ}
  {k : KalmanFilter STATES INPUTS}

/-- The covariances of a filter. -/
structure CovarianceInv (k : KalmanFilter STATES INPUTS) : Prop where
  P : k.P.PosSemidef
  Q : k.Q.PosSemidef
  R : (asMatrix k.R).PosDef

/-- An update leaves the members that the constructor sets. -/
theorem performUpdate_R (k : KalmanFilter STATES INPUTS) (y : Fin INPUTS → ℝ) :
    (k.performUpdate inverse y).R = k.R := by
  unfold performUpdate
  split <;> rfl

theorem performUpdate_Q (k : KalmanFilter STATES INPUTS) (y : Fin INPUTS → ℝ) :
    (k.performUpdate inverse y).Q = k.Q := by
  unfold performUpdate
  split <;> rfl

theorem innovation_eq (k : KalmanFilter STATES INPUTS)
    (P : Matrix (Fin STATES) (Fin STATES) ℝ) :
    k.innovation P = Kalman.innovation P k.C (asMatrix k.R) := by
  rw [innovation, Kalman.innovation, Matrix.mul_assoc]

/-- The matrix that an update inverts is invertible. -/
theorem CovarianceInv.isUnit_innovation (h : k.CovarianceInv) :
    IsUnit (k.innovation (k.A * k.P * k.Aᵀ + k.Q)) := by
  rw [innovation_eq]
  exact (Kalman.innovation_posDef (Kalman.prior_posSemidef h.P h.Q k.A) h.R k.C).isUnit

/-- The step of the covariance. -/
theorem performUpdate_P
    (hinv : ∀ M : Matrix (Fin INPUTS) (Fin INPUTS) ℝ, IsUnit M → inverse M = M⁻¹)
    (h : k.CovarianceInv) (hinit : k.initialized = true) (y : Fin INPUTS → ℝ) :
    (k.performUpdate inverse y).P =
      Kalman.posterior (Kalman.prior k.A k.P k.Q) k.C (asMatrix k.R) := by
  have hnot : ¬ (!k.initialized) = true := by simp [hinit]
  have hS := hinv _ h.isUnit_innovation
  rw [performUpdate, if_neg hnot]
  simp only [hS]
  rw [innovation_eq]
  rfl

theorem CovarianceInv.performUpdate
    (hinv : ∀ M : Matrix (Fin INPUTS) (Fin INPUTS) ℝ, IsUnit M → inverse M = M⁻¹)
    (h : k.CovarianceInv) (y : Fin INPUTS → ℝ) : (k.performUpdate inverse y).CovarianceInv := by
  refine ⟨?_, ?_, ?_⟩
  · cases hinit : k.initialized with
    | false => simpa [KalmanFilter.performUpdate, hinit] using h.P
    | true =>
      rw [performUpdate_P hinv h hinit]
      exact Kalman.posterior_posSemidef (Kalman.prior_posSemidef h.P h.Q k.A) h.R k.C
  · rw [performUpdate_Q]
    exact h.Q
  · rw [performUpdate_R]
    exact h.R

end KalmanFilter

end Aimbots.Tap
