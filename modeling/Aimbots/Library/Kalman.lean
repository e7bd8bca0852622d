import Mathlib.LinearAlgebra.Matrix.PosDef
import Mathlib.Algebra.Order.Star.Real

/-!
# The covariance of a Kalman filter

The covariance `P` of a linear filter with observation matrix `H`: a prediction through `F` with
noise `Q` makes it `F P Fᵀ + Q`, and a measurement with noise `R` makes it `(1 - K H) P`, where
`K = P Hᵀ S⁻¹` is the gain and `S = H P Hᵀ + R` the covariance of the innovation.

The short form of the second step is symmetric because `K` is the gain: `posterior_eq_sub` writes it
as `P - K S Kᵀ`, which cannot exceed `P`, and `posterior_eq_joseph` as a sum of two congruences,
which is positive semidefinite.  The numbers of states and of measurements are arbitrary.
-/

namespace Aimbots.Kalman

open Matrix

variable {n m : Type*} [Fintype n] [Fintype m]

/-- The covariance after a prediction. -/
def prior (F P Q : Matrix n n ℝ) : Matrix n n ℝ := F * P * Fᵀ + Q

omit [Fintype m] in
/-- The covariance of the innovation. -/
def innovation (P : Matrix n n ℝ) (H : Matrix m n ℝ) (R : Matrix m m ℝ) : Matrix m m ℝ :=
  H * (P * Hᵀ) + R

variable {P Q : Matrix n n ℝ} {H : Matrix m n ℝ} {R : Matrix m m ℝ}

omit [Fintype n] in
theorem transpose_eq (hP : P.PosSemidef) : Pᵀ = P := by
  rw [← conjTranspose_eq_transpose_of_trivial]
  exact hP.isHermitian

/-- Congruence by a rectangular matrix, over the reals. -/
theorem posSemidef_congr (hP : P.PosSemidef) (B : Matrix m n ℝ) : (B * P * Bᵀ).PosSemidef := by
  rw [← conjTranspose_eq_transpose_of_trivial]
  exact hP.mul_mul_conjTranspose_same B

theorem prior_posSemidef (hP : P.PosSemidef) (hQ : Q.PosSemidef) (F : Matrix n n ℝ) :
    (prior F P Q).PosSemidef :=
  (posSemidef_congr hP F).add hQ

theorem innovation_posDef (hP : P.PosSemidef) (hR : R.PosDef) (H : Matrix m n ℝ) :
    (innovation P H R).PosDef := by
  rw [innovation, ← Matrix.mul_assoc]
  exact Matrix.PosDef.posSemidef_add (posSemidef_congr hP H) hR

section Measurement

variable [DecidableEq m]

/-- The gain. -/
noncomputable def gain (P : Matrix n n ℝ) (H : Matrix m n ℝ) (R : Matrix m m ℝ) : Matrix n m ℝ :=
  P * Hᵀ * (innovation P H R)⁻¹

/-- The gain undoes the inverse. -/
theorem gain_mul_innovation (hP : P.PosSemidef) (hR : R.PosDef) :
    gain P H R * innovation P H R = P * Hᵀ := by
  have hdet : IsUnit (innovation P H R).det :=
    (isUnit_iff_isUnit_det _).1 (innovation_posDef hP hR H).isUnit
  rw [gain, nonsing_inv_mul_cancel_right _ _ hdet]

theorem mul_eq_innovation_mul_transpose_gain (hP : P.PosSemidef) (hR : R.PosDef) :
    H * P = innovation P H R * (gain P H R)ᵀ := by
  have hS : (innovation P H R)ᵀ = innovation P H R :=
    transpose_eq (innovation_posDef hP hR H).posSemidef
  calc H * P = (P * Hᵀ)ᵀ := by rw [transpose_mul, transpose_transpose, transpose_eq hP]
    _ = (gain P H R * innovation P H R)ᵀ := by rw [gain_mul_innovation hP hR]
    _ = innovation P H R * (gain P H R)ᵀ := by rw [transpose_mul, hS]

variable [DecidableEq n]

/-- The covariance after a measurement. -/
noncomputable def posterior (P : Matrix n n ℝ) (H : Matrix m n ℝ) (R : Matrix m m ℝ) :
    Matrix n n ℝ :=
  (1 - gain P H R * H) * P

/-- A measurement takes a congruence of the innovation's covariance away. -/
theorem posterior_eq_sub (hP : P.PosSemidef) (hR : R.PosDef) :
    posterior P H R = P - gain P H R * innovation P H R * (gain P H R)ᵀ := by
  rw [posterior, Matrix.sub_mul, Matrix.one_mul, Matrix.mul_assoc,
    mul_eq_innovation_mul_transpose_gain hP hR, Matrix.mul_assoc]

/-- Before it is multiplied by the gain, what a measurement leaves of `P Hᵀ` is the gain's noise. -/
theorem posterior_mul_transpose (hP : P.PosSemidef) (hR : R.PosDef) :
    posterior P H R * Hᵀ = gain P H R * R := by
  calc posterior P H R * Hᵀ = P * Hᵀ - gain P H R * (H * (P * Hᵀ)) := by
        simp only [posterior, Matrix.sub_mul, Matrix.one_mul, Matrix.mul_assoc]
    _ = gain P H R * innovation P H R - gain P H R * (H * (P * Hᵀ)) := by
        rw [gain_mul_innovation hP hR]
    _ = gain P H R * R := by rw [← Matrix.mul_sub, innovation, add_sub_cancel_left]

/-- The form of Joseph. -/
theorem posterior_eq_joseph (hP : P.PosSemidef) (hR : R.PosDef) :
    posterior P H R =
      (1 - gain P H R * H) * P * (1 - gain P H R * H)ᵀ + gain P H R * R * (gain P H R)ᵀ := by
  have hsplit : (1 - gain P H R * H)ᵀ = 1 - Hᵀ * (gain P H R)ᵀ := by
    rw [transpose_sub, transpose_one, transpose_mul]
  calc posterior P H R
      = posterior P H R - posterior P H R * Hᵀ * (gain P H R)ᵀ
          + gain P H R * R * (gain P H R)ᵀ := by
        rw [posterior_mul_transpose hP hR, sub_add_cancel]
    _ = posterior P H R * (1 - gain P H R * H)ᵀ + gain P H R * R * (gain P H R)ᵀ := by
        rw [hsplit, Matrix.mul_sub, Matrix.mul_one, Matrix.mul_assoc]

/-- The covariance stays positive semidefinite. -/
theorem posterior_posSemidef (hP : P.PosSemidef) (hR : R.PosDef) (H : Matrix m n ℝ) :
    (posterior P H R).PosSemidef := by
  rw [posterior_eq_joseph hP hR]
  exact (posSemidef_congr hP _).add (posSemidef_congr hR.posSemidef _)

/-- A measurement does not increase the covariance. -/
theorem sub_posterior_posSemidef (hP : P.PosSemidef) (hR : R.PosDef) (H : Matrix m n ℝ) :
    (P - posterior P H R).PosSemidef := by
  rw [posterior_eq_sub hP hR, sub_sub_cancel]
  exact posSemidef_congr (innovation_posDef hP hR H).posSemidef _

end Measurement

end Aimbots.Kalman
