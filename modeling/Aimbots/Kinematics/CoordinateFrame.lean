import Aimbots.Library.Numerals
import Aimbots.Library.RigidMotion
import Aimbots.TurretComms.Receiver
import Mathlib.Analysis.SpecialFunctions.Trigonometric.Basic

/-!
# `coordinate_frame.cpp`, `transform_setup.cpp` and `rotationMatrix`

A `CoordinateFrame` keeps its orientation and its origin, and the two transforms in homogeneous
coordinates that they determine.  The transform into the frame is computed by transposing the
orientation, which inverts the transform out of it as long as the orientation is orthonormal.

`Reachable` are the frames that the operations lead to when every matrix they are given is a product
of rotation matrices.  Each is a rigid motion (`Reachable.motion`), and `getPointInFrame` is the
action of the motions of the two frames (`getPointInFrame_eq`).
-/

namespace Aimbots.Kinematics

open Matrix
open scoped Numerals
open TurretComms (LinearAxis AngleUnit)

/-- `Vector3f`. -/
abbrev Vector3f (K : Type*) := Fin 3 → K

/-- `Matrix3f`. -/
abbrev Matrix3f (K : Type*) := Matrix (Fin 3) (Fin 3) K

/-- `Matrix4f`. -/
abbrev Matrix4f (K : Type*) := Matrix (Fin 4) (Fin 4) K

section Transforms

variable {K : Type*} [CommRing K]

/-- `initTransform`. -/
def initTransform (R : Matrix3f K) (p : Vector3f K) : Matrix4f K :=
  !![R 0 0, R 0 1, R 0 2, p 0;
    R 1 0, R 1 1, R 1 2, p 1;
    R 2 0, R 2 1, R 2 2, p 2;
    0, 0, 0, 1]

/-- `homogenousCoordinateExtend`. -/
def homogenousCoordinateExtend (origin : Vector3f K) : Fin 4 → K :=
  ![origin 0, origin 1, origin 2, 1]

/-- `homogenousCoordinateCrop`. -/
def homogenousCoordinateCrop (origin : Fin 4 → K) : Vector3f K := ![origin 0, origin 1, origin 2]

/-- `invertTransform`. -/
def invertTransform (transform : Matrix4f K) : Matrix4f K :=
  let RNew : Matrix3f K :=
    !![transform 0 0, transform 1 0, transform 2 0;
      transform 0 1, transform 1 1, transform 2 1;
      transform 0 2, transform 1 2, transform 2 2]
  let r : Vector3f K := ![transform 0 3, transform 1 3, transform 2 3]
  let rNew : Vector3f K := (-1 : K) • (RNew *ᵥ r)
  initTransform RNew rNew

theorem initTransform_mul (A B : Matrix3f K) (p q : Vector3f K) :
    initTransform A p * initTransform B q = initTransform (A * B) (A *ᵥ q + p) := by
  rw [← Matrix.ext_iff]
  simp [initTransform, Fin.forall_fin_succ, Matrix.mul_apply, Matrix.mulVec, dotProduct,
    Fin.sum_univ_four, Fin.sum_univ_three]

theorem initTransform_one : initTransform (1 : Matrix3f K) 0 = 1 := by
  ext i j
  fin_cases i <;> fin_cases j <;> simp [initTransform]

theorem initTransform_mulVec (A : Matrix3f K) (p v : Vector3f K) :
    initTransform A p *ᵥ homogenousCoordinateExtend v =
      homogenousCoordinateExtend (A *ᵥ v + p) := by
  ext i
  fin_cases i <;>
    simp [initTransform, homogenousCoordinateExtend, Matrix.mulVec, dotProduct, Fin.sum_univ_succ,
      add_assoc]

theorem homogenousCoordinateCrop_extend (v : Vector3f K) :
    homogenousCoordinateCrop (homogenousCoordinateExtend v) = v := by
  ext i
  fin_cases i <;> rfl

theorem invertTransform_initTransform (A : Matrix3f K) (p : Vector3f K) :
    invertTransform (initTransform A p) = initTransform Aᵀ (-(Aᵀ *ᵥ p)) := by
  have hR : (!![A 0 0, A 1 0, A 2 0; A 0 1, A 1 1, A 2 1; A 0 2, A 1 2, A 2 2] : Matrix3f K) =
      Aᵀ := by
    ext i j
    fin_cases i <;> fin_cases j <;> rfl
  have hp : (![p 0, p 1, p 2] : Vector3f K) = p := by
    ext i
    fin_cases i <;> rfl
  show initTransform !![A 0 0, A 1 0, A 2 0; A 0 1, A 1 1, A 2 1; A 0 2, A 1 2, A 2 2]
    ((-1 : K) • (!![A 0 0, A 1 0, A 2 0; A 0 1, A 1 1, A 2 1; A 0 2, A 1 2, A 2 2] *ᵥ
      ![p 0, p 1, p 2])) = _
  rw [hR, hp, neg_one_smul]

/-- The matrix of a rigid motion in homogeneous coordinates. -/
def homogeneous (f : RigidMotion (Fin 3) K) : Matrix4f K := initTransform f.linear f.translation

theorem homogeneous_one : homogeneous (1 : RigidMotion (Fin 3) K) = 1 := initTransform_one

theorem homogeneous_mul (f g : RigidMotion (Fin 3) K) :
    homogeneous (f * g) = homogeneous f * homogeneous g := (initTransform_mul ..).symm

/-- `invertTransform` inverts rigid motions. -/
theorem homogeneous_inv (f : RigidMotion (Fin 3) K) :
    homogeneous f⁻¹ = invertTransform (homogeneous f) := (invertTransform_initTransform ..).symm

theorem homogeneous_mulVec (f : RigidMotion (Fin 3) K) (v : Vector3f K) :
    homogeneous f *ᵥ homogenousCoordinateExtend v = homogenousCoordinateExtend (f • v) :=
  initTransform_mulVec ..

end Transforms

/-! ### Frames -/

/-- The data members of `CoordinateFrame`. -/
structure CoordinateFrame (K : Type*) where
  orientation : Matrix3f K
  origin : Vector3f K
  transformIn : Matrix4f K
  transformOut : Matrix4f K

namespace CoordinateFrame

variable {K : Type*} [CommRing K]

/-- `updateTransform`. -/
def updateTransform (f : CoordinateFrame K) : CoordinateFrame K :=
  let transformOut := initTransform f.orientation f.origin
  { f with transformOut, transformIn := invertTransform transformOut }

/-- The constructor with an orientation and an origin; the transforms are set by
`updateTransform`. -/
def construct (orientation : Matrix3f K) (origin : Vector3f K) : CoordinateFrame K :=
  updateTransform ⟨orientation, origin, 0, 0⟩

/-- The default constructor. -/
def default : CoordinateFrame K := construct 1 0

/-- `setOrientation`. -/
def setOrientation (f : CoordinateFrame K) (R : Matrix3f K) : CoordinateFrame K :=
  updateTransform { f with orientation := R }

/-- `rotateFrame`. -/
def rotateFrame (f : CoordinateFrame K) (R : Matrix3f K) : CoordinateFrame K :=
  updateTransform { f with orientation := f.orientation * R }

/-- `displaceOrigin`. -/
def displaceOrigin (f : CoordinateFrame K) (r : Vector3f K) : CoordinateFrame K :=
  updateTransform { f with origin := f.origin + r }

/-- `setOrigin`. -/
def setOrigin (f : CoordinateFrame K) (r : Vector3f K) : CoordinateFrame K :=
  updateTransform { f with origin := r }

/-- `getTransformToFrame`. -/
def getTransformToFrame (f g : CoordinateFrame K) : Matrix4f K := g.transformIn * f.transformOut

/-- `getPointInFrame`: the point `v` of the frame `f`, in the frame `g`. -/
def getPointInFrame (f g : CoordinateFrame K) (v : Vector3f K) : Vector3f K :=
  homogenousCoordinateCrop (f.getTransformToFrame g *ᵥ homogenousCoordinateExtend v)

/-- The frame stands for a rigid motion: that from its own coordinates to the ground. -/
structure IsRigid (f : CoordinateFrame K) (m : RigidMotion (Fin 3) K) : Prop where
  orientation : m.linear = f.orientation
  origin : m.translation = f.origin
  transformOut : f.transformOut = homogeneous m
  transformIn : f.transformIn = homogeneous m⁻¹

/-- Updating the transforms makes a frame with an orthonormal orientation rigid. -/
theorem isRigid_updateTransform (f : CoordinateFrame K) (h : IsOrthonormal f.orientation) :
    f.updateTransform.IsRigid ⟨f.orientation, f.origin, h⟩ :=
  ⟨rfl, rfl, rfl, (homogeneous_inv ⟨f.orientation, f.origin, h⟩).symm⟩

variable {f g : CoordinateFrame K} {m k : RigidMotion (Fin 3) K}

theorem IsRigid.isOrthonormal (h : f.IsRigid m) : IsOrthonormal f.orientation :=
  h.orientation ▸ m.orthonormal

theorem IsRigid.transformIn_mul_transformOut (h : f.IsRigid m) :
    f.transformIn * f.transformOut = 1 := by
  rw [h.transformIn, h.transformOut, ← homogeneous_mul, inv_mul_cancel, homogeneous_one]

theorem IsRigid.transformOut_mul_transformIn (h : f.IsRigid m) :
    f.transformOut * f.transformIn = 1 := by
  rw [h.transformIn, h.transformOut, ← homogeneous_mul, mul_inv_cancel, homogeneous_one]

/-- **Points are mapped by the motions of the two frames.** -/
theorem getPointInFrame_eq (hf : f.IsRigid m) (hg : g.IsRigid k) (v : Vector3f K) :
    f.getPointInFrame g v = (k⁻¹ * m) • v := by
  rw [getPointInFrame, getTransformToFrame, hg.transformIn, hf.transformOut, ← homogeneous_mul,
    homogeneous_mulVec, homogenousCoordinateCrop_extend]

end CoordinateFrame

/-! ### Rotations -/

/-- `modm::toRadian`. -/
noncomputable def toRadian (angle : ℝ) : ℝ := angle * Real.pi / 180

/-- `rotationMatrix`. -/
noncomputable def rotationMatrix (angle : ℝ) (axis : LinearAxis) (unit : AngleUnit) : Matrix3f ℝ :=
  let angle := if unit = .Degrees then toRadian angle else angle
  let c := Real.cos angle
  let s := Real.sin angle
  match axis with
  | .X_AXIS => !![1, 0, 0; 0, c, -s; 0, s, c]
  | .Y_AXIS => !![c, 0, s; 0, 1, 0; -s, 0, c]
  | .Z_AXIS => !![c, -s, 0; s, c, 0; 0, 0, 1]

theorem isOrthonormal_rotationMatrix (angle : ℝ) (axis : LinearAxis) (unit : AngleUnit) :
    IsOrthonormal (rotationMatrix angle axis unit) := by
  simp only [IsOrthonormal, rotationMatrix]
  generalize (if unit = .Degrees then toRadian angle else angle) = a
  have h := Real.sin_sq_add_cos_sq a
  cases axis <;>
  · ext i j
    fin_cases i <;> fin_cases j <;>
      simp [Matrix.mul_apply, Fin.sum_univ_succ] <;> linarith

/-- The products of rotation matrices. -/
inductive IsRotation : Matrix3f ℝ → Prop
  | rotationMatrix (angle : ℝ) (axis : LinearAxis) (unit : AngleUnit) :
      IsRotation (rotationMatrix angle axis unit)
  | mul {A B : Matrix3f ℝ} : IsRotation A → IsRotation B → IsRotation (A * B)

theorem IsRotation.isOrthonormal {A : Matrix3f ℝ} (h : IsRotation A) : IsOrthonormal A := by
  induction h with
  | rotationMatrix angle axis unit => exact isOrthonormal_rotationMatrix angle axis unit
  | mul _ _ ihA ihB => exact ihA.mul ihB

namespace CoordinateFrame

/-- The frames that the operations lead to, with products of rotation matrices. -/
inductive Reachable : CoordinateFrame ℝ → Prop
  | default : Reachable default
  | construct {R : Matrix3f ℝ} (p : Vector3f ℝ) : IsRotation R → Reachable (construct R p)
  | setOrientation {f : CoordinateFrame ℝ} {R : Matrix3f ℝ} :
      Reachable f → IsRotation R → Reachable (f.setOrientation R)
  | rotateFrame {f : CoordinateFrame ℝ} {R : Matrix3f ℝ} :
      Reachable f → IsRotation R → Reachable (f.rotateFrame R)
  | displaceOrigin {f : CoordinateFrame ℝ} (r : Vector3f ℝ) :
      Reachable f → Reachable (f.displaceOrigin r)
  | setOrigin {f : CoordinateFrame ℝ} (r : Vector3f ℝ) : Reachable f → Reachable (f.setOrigin r)

/-- **Every frame is rigid.** -/
theorem Reachable.motion {f : CoordinateFrame ℝ} (h : Reachable f) : ∃ m, f.IsRigid m := by
  induction h with
  | default => exact ⟨_, isRigid_updateTransform _ .one⟩
  | construct p hR => exact ⟨_, isRigid_updateTransform _ hR.isOrthonormal⟩
  | setOrientation _ hR => exact ⟨_, isRigid_updateTransform _ hR.isOrthonormal⟩
  | rotateFrame _ hR ih =>
    obtain ⟨m, hm⟩ := ih
    exact ⟨_, isRigid_updateTransform _ (hm.isOrthonormal.mul hR.isOrthonormal)⟩
  | @displaceOrigin f r _ ih =>
    obtain ⟨m, hm⟩ := ih
    exact ⟨_, isRigid_updateTransform { f with origin := f.origin + r } hm.isOrthonormal⟩
  | @setOrigin f r _ ih =>
    obtain ⟨m, hm⟩ := ih
    exact ⟨_, isRigid_updateTransform { f with origin := r } hm.isOrthonormal⟩

/-- The distance of two points. -/
noncomputable def dist (v w : Vector3f ℝ) : ℝ := √(RigidMotion.sqDist v w)

/-- **Frames are rigid.**  The transform out of a frame is its orientation and its origin, the
transform into it is the inverse; mapping a point to another frame and back gives the point, mapping
it on to a third frame is mapping it there directly, and distances stay. -/
theorem reachable_rigid {a b c : CoordinateFrame ℝ} (ha : Reachable a) (hb : Reachable b)
    (hc : Reachable c) :
    (a.transformOut = initTransform a.orientation a.origin ∧
        a.transformIn * a.transformOut = 1 ∧ a.transformOut * a.transformIn = 1) ∧
      (∀ v, b.getPointInFrame a (a.getPointInFrame b v) = v) ∧
      (∀ v, b.getPointInFrame c (a.getPointInFrame b v) = a.getPointInFrame c v) ∧
      ∀ v w, dist (a.getPointInFrame b v) (a.getPointInFrame b w) = dist v w := by
  obtain ⟨m, hm⟩ := ha.motion
  obtain ⟨k, hk⟩ := hb.motion
  obtain ⟨l, hl⟩ := hc.motion
  refine ⟨⟨?_, hm.transformIn_mul_transformOut, hm.transformOut_mul_transformIn⟩, fun v => ?_,
    fun v => ?_, fun v w => ?_⟩
  · rw [hm.transformOut, homogeneous, hm.orientation, hm.origin]
  · rw [getPointInFrame_eq hk hm, getPointInFrame_eq hm hk, smul_smul]
    simp
  · rw [getPointInFrame_eq hk hl, getPointInFrame_eq hm hk, getPointInFrame_eq hm hl, smul_smul]
    congr 1
    group
  · rw [getPointInFrame_eq hm hk, getPointInFrame_eq hm hk, dist, dist, RigidMotion.sqDist_smul]

/-- A frame that is displaced and then turned by a quarter. -/
noncomputable def turned : CoordinateFrame ℝ :=
  (default.displaceOrigin ![1, 2, 3]).rotateFrame (rotationMatrix 90 .Z_AXIS .Degrees)

theorem reachable_turned : Reachable turned :=
  .rotateFrame (.displaceOrigin _ .default) (.rotationMatrix ..)

theorem reachable_rigid_turned :
    (turned.transformOut = initTransform turned.orientation turned.origin ∧
        turned.transformIn * turned.transformOut = 1 ∧
        turned.transformOut * turned.transformIn = 1) ∧
      (∀ v, default.getPointInFrame turned (turned.getPointInFrame default v) = v) ∧
      (∀ v, default.getPointInFrame turned (turned.getPointInFrame default v) =
        turned.getPointInFrame turned v) ∧
      ∀ v w, dist (turned.getPointInFrame default v) (turned.getPointInFrame default w) =
        dist v w :=
  reachable_rigid reachable_turned .default reachable_turned

end CoordinateFrame

end Aimbots.Kinematics
