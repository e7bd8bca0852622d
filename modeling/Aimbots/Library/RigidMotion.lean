import Mathlib.Algebra.Group.Action.Defs
import Mathlib.Algebra.Group.MinimalAxioms
import Mathlib.LinearAlgebra.Matrix.NonsingularInverse
import Mathlib.LinearAlgebra.Matrix.DotProduct

/-!
# Rigid motions

The maps `x ↦ A x + p` of coordinate space with an orthogonal matrix `A`, as a group that acts on
the vectors.  The inverse has the transpose of `A`, so composing, inverting and moving points are
computed without division, over any commutative ring; `sqDist_smul` says that distances stay.
-/

namespace Aimbots

open Matrix

variable {n K : Type*} [Fintype n] [DecidableEq n] [CommRing K]

/-- The columns of the matrix are orthonormal. -/
def IsOrthonormal (A : Matrix n n K) : Prop := Aᵀ * A = 1

namespace IsOrthonormal

variable {A B : Matrix n n K}

theorem one : IsOrthonormal (1 : Matrix n n K) := by
  rw [IsOrthonormal, transpose_one, mul_one]

theorem mul (hA : IsOrthonormal A) (hB : IsOrthonormal B) : IsOrthonormal (A * B) := by
  rw [IsOrthonormal] at hA hB ⊢
  calc (A * B)ᵀ * (A * B) = Bᵀ * (Aᵀ * A) * B := by rw [transpose_mul]; simp only [mul_assoc]
    _ = 1 := by rw [hA, mul_one, hB]

theorem mul_transpose (hA : IsOrthonormal A) : A * Aᵀ = 1 := mul_eq_one_comm.1 hA

theorem transpose (hA : IsOrthonormal A) : IsOrthonormal Aᵀ := by
  rw [IsOrthonormal, transpose_transpose]
  exact hA.mul_transpose

end IsOrthonormal

/-- A rigid motion: `x ↦ linear x + translation`. -/
@[ext] structure RigidMotion (n K : Type*) [Fintype n] [DecidableEq n] [CommRing K] where
  linear : Matrix n n K
  translation : n → K
  orthonormal : IsOrthonormal linear

namespace RigidMotion

instance : One (RigidMotion n K) := ⟨⟨1, 0, .one⟩⟩

/-- `f * g` is `g` followed by `f`. -/
instance : Mul (RigidMotion n K) :=
  ⟨fun f g => ⟨f.linear * g.linear, f.linear *ᵥ g.translation + f.translation,
    f.orthonormal.mul g.orthonormal⟩⟩

instance : Inv (RigidMotion n K) :=
  ⟨fun f => ⟨f.linearᵀ, -(f.linearᵀ *ᵥ f.translation), f.orthonormal.transpose⟩⟩

variable (f g : RigidMotion n K)

@[simp] theorem linear_one : (1 : RigidMotion n K).linear = 1 := rfl

@[simp] theorem translation_one : (1 : RigidMotion n K).translation = 0 := rfl

@[simp] theorem linear_mul : (f * g).linear = f.linear * g.linear := rfl

@[simp] theorem translation_mul :
    (f * g).translation = f.linear *ᵥ g.translation + f.translation := rfl

@[simp] theorem linear_inv : f⁻¹.linear = f.linearᵀ := rfl

@[simp] theorem translation_inv : f⁻¹.translation = -(f.linearᵀ *ᵥ f.translation) := rfl

instance : Group (RigidMotion n K) :=
  .ofLeftAxioms
    (fun f g h => RigidMotion.ext (mul_assoc ..) (by
      simp only [linear_mul, translation_mul, mulVec_add, mulVec_mulVec, add_assoc]))
    (fun f => RigidMotion.ext (one_mul _) (by
      rw [translation_mul, linear_one, one_mulVec, translation_one, add_zero]))
    (fun f => RigidMotion.ext f.orthonormal (by
      rw [translation_mul, linear_inv, translation_inv, add_neg_cancel, translation_one]))

instance : SMul (RigidMotion n K) (n → K) := ⟨fun f x => f.linear *ᵥ x + f.translation⟩

theorem smul_def (x : n → K) : f • x = f.linear *ᵥ x + f.translation := rfl

instance : MulAction (RigidMotion n K) (n → K) where
  one_smul x := by rw [smul_def, linear_one, one_mulVec, translation_one, add_zero]
  mul_smul f g x := by
    simp only [smul_def, linear_mul, translation_mul, mulVec_add, mulVec_mulVec, add_assoc]

/-- The square of the distance of two points. -/
def sqDist (x y : n → K) : K := (x - y) ⬝ᵥ (x - y)

/-- **Distances are preserved.** -/
theorem sqDist_smul (x y : n → K) : sqDist (f • x) (f • y) = sqDist x y := by
  have hdiff : f • x - f • y = f.linear *ᵥ (x - y) := by
    rw [smul_def, smul_def, mulVec_sub, add_sub_add_right_eq_sub]
  rw [sqDist, sqDist, hdiff, dotProduct_mulVec, vecMul_mulVec, f.orthonormal, vecMul_one]

end RigidMotion

end Aimbots
