import Aimbots.Library.Circle
import Aimbots.Library.Numerals
import Aimbots.Tap.WrappedFloat
import Mathlib.Analysis.SpecialFunctions.Trigonometric.Basic

/-!
# `chassis_helper.cpp`: the nearest snap position

The snap positions of a chassis are equally spaced around it.  `findNearestChassisErrorTo` goes
through the shortest ways to each of them, keeps the shortest, and so finds the one that is nearest
(`findNearestChassisErrorTo_nearest`).
-/

namespace Aimbots.Chassis

open Tap
open scoped Numerals
open Real (pi)

/-- `SnapSymmetryConfig`. -/
structure SnapSymmetryConfig where
  numSnapPositions : ℕ
  snapAngle : ℝ

namespace SnapSymmetryConfig

variable (c : SnapSymmetryConfig)

/-- `angleBetweenCorners`. -/
noncomputable def angleBetweenCorners : ℝ := 2 * pi / c.numSnapPositions

/-- `currentCornerError`, to the corner with index `i`. -/
noncomputable def cornerError (targetContiguousAngle : WrappedFloat 0 (2 * pi)) (i : ℕ) : ℝ :=
  targetContiguousAngle.minDifferenceTo (c.snapAngle + i * c.angleBetweenCorners)

/-- The body of the loop over the corners. -/
noncomputable def nearerCorner (targetContiguousAngle : WrappedFloat 0 (2 * pi))
    (nearestCornerError : ℝ) (i : ℕ) : ℝ :=
  let currentCornerError := c.cornerError targetContiguousAngle i
  if |currentCornerError| < |nearestCornerError| then currentCornerError else nearestCornerError

/-- `findNearestChassisErrorTo`. -/
noncomputable def findNearestChassisErrorTo (chassisRelativeTargetAngle : ℝ) : ℝ :=
  let targetContiguousAngle : WrappedFloat 0 (2 * pi) := .construct chassisRelativeTargetAngle
  (List.range' 1 (c.numSnapPositions - 1)).foldl (c.nearerCorner targetContiguousAngle)
    (targetContiguousAngle.minDifferenceTo c.snapAngle)

/-- The corner that is `k` corners from the first, in either direction. -/
noncomputable def corner (k : ℤ) : ℝ := c.snapAngle + k * c.angleBetweenCorners

variable {c}

/-- **The loop** keeps one of the errors, and none that it has seen is smaller. -/
theorem foldl_nearerCorner (target : WrappedFloat 0 (2 * pi)) (corners : List ℕ) (nearest : ℝ) :
    let kept := corners.foldl (c.nearerCorner target) nearest
    (kept = nearest ∨ ∃ i ∈ corners, kept = c.cornerError target i) ∧
      |kept| ≤ |nearest| ∧ ∀ i ∈ corners, |kept| ≤ |c.cornerError target i| := by
  induction corners generalizing nearest with
  | nil => simp
  | cons i corners ih =>
    obtain ⟨hkept, hle, hall⟩ := ih (c.nearerCorner target nearest i)
    rw [List.foldl_cons]
    have hbody : (c.nearerCorner target nearest i = nearest ∨
        c.nearerCorner target nearest i = c.cornerError target i) ∧
        |c.nearerCorner target nearest i| ≤ |nearest| ∧
        |c.nearerCorner target nearest i| ≤ |c.cornerError target i| := by
      unfold nearerCorner
      dsimp only
      split_ifs with hless
      · exact ⟨Or.inr rfl, hless.le, le_rfl⟩
      · exact ⟨Or.inl rfl, le_rfl, not_lt.1 hless⟩
    obtain ⟨hchoice, hnearest, hcurrent⟩ := hbody
    refine ⟨?_, hle.trans hnearest, List.forall_mem_cons.2 ⟨hle.trans hcurrent, hall⟩⟩
    rcases hkept with hkept | ⟨j, hj, hkept⟩
    · rw [hkept]
      rcases hchoice with hchoice | hchoice
      · exact Or.inl hchoice
      · exact Or.inr ⟨i, List.mem_cons_self, hchoice⟩
    · exact Or.inr ⟨j, List.mem_cons_of_mem i hj, hkept⟩

/-- The function returns the error to one of the corners, and none is smaller. -/
theorem findNearestChassisErrorTo_spec (c : SnapSymmetryConfig) (a : ℝ) :
    (∃ i, c.findNearestChassisErrorTo a = c.cornerError (.construct a) i) ∧
      ∀ i < c.numSnapPositions, |c.findNearestChassisErrorTo a| ≤
        |c.cornerError (.construct a) i| := by
  have hfirst : WrappedFloat.minDifferenceTo (.construct a : WrappedFloat 0 (2 * pi)) c.snapAngle =
      c.cornerError (.construct a) 0 := by
    rw [cornerError, Nat.cast_zero, zero_mul, add_zero]
  obtain ⟨hkept, hle, hall⟩ := foldl_nearerCorner (c := c) (.construct a)
    (List.range' 1 (c.numSnapPositions - 1)) (c.cornerError (.construct a) 0)
  rw [findNearestChassisErrorTo, hfirst]
  constructor
  · rcases hkept with hkept | ⟨i, -, hkept⟩
    · exact ⟨0, hkept⟩
    · exact ⟨i, hkept⟩
  · intro i hi
    rcases Nat.eq_zero_or_pos i with rfl | hpos
    · exact hle
    · exact hall i (List.mem_range'_1.2 ⟨hpos, by omega⟩)

/-- The error to a corner, up to whole turns, and at most half a turn. -/
theorem cornerError_construct (a : ℝ) (i : ℕ) :
    c.cornerError (.construct a) i ≡ c.corner i - a [PMOD 2 * pi] ∧
      |c.cornerError (.construct a) i| ≤ 2 * pi / 2 := by
  have hshort := WrappedFloat.minDifferenceTo_construct Real.two_pi_pos a
    (c.snapAngle + i * c.angleBetweenCorners)
  rw [sub_zero] at hshort
  exact_mod_cast hshort

/-- All corners are at the same place, up to the angle between two of them. -/
theorem corner_modEq_snapAngle (k : ℤ) :
    c.corner k ≡ c.snapAngle [PMOD c.angleBetweenCorners] := by
  rw [corner, ← zsmul_eq_mul]
  exact AddCommGroup.add_zsmul_modEq k

/-- What is the same up to whole turns is the same up to the angle between two corners. -/
theorem modEq_angleBetweenCorners (hn : c.numSnapPositions ≠ 0) {x y : ℝ}
    (h : x ≡ y [PMOD 2 * pi]) : x ≡ y [PMOD c.angleBetweenCorners] := by
  have hturn : 2 * pi = c.numSnapPositions • c.angleBetweenCorners := by
    rw [angleBetweenCorners, nsmul_eq_mul, mul_div_cancel₀ _ (Nat.cast_ne_zero.2 hn)]
  rw [hturn] at h
  exact h.of_nsmul

/-- Some corner is within half of the angle between two. -/
theorem exists_abs_cornerError_le (hn : c.numSnapPositions ≠ 0) (a : ℝ) :
    ∃ i < c.numSnapPositions,
      |c.cornerError (.construct a) i| ≤ c.angleBetweenCorners / 2 := by
  obtain ⟨i, hi, d, hd, hle⟩ :=
    Circle.exists_equallySpaced_near Real.two_pi_pos hn (a - c.snapAngle)
  obtain ⟨hmod, hshort⟩ := cornerError_construct (c := c) a i
  have hway : c.corner i - a = i * (2 * pi / c.numSnapPositions) - (a - c.snapAngle) := by
    rw [corner, angleBetweenCorners, Int.cast_natCast]
    ring
  rw [hway] at hmod
  exact ⟨i, hi, (Circle.abs_le_abs_of_modEq hshort (hmod.trans hd)).trans hle⟩

/-- **The nearest corner.**  For any angle and any number of snap positions, the error that is
returned leads to a snap position, is at most half of the angle between two neighbours, and no snap
position is nearer: every way to one is at least as long. -/
theorem findNearestChassisErrorTo_nearest (c : SnapSymmetryConfig) (hn : 1 ≤ c.numSnapPositions)
    (a : ℝ) :
    |c.findNearestChassisErrorTo a| ≤ pi / c.numSnapPositions ∧
      (∃ k : ℤ, a + c.findNearestChassisErrorTo a ≡ c.corner k [PMOD 2 * pi]) ∧
      ∀ (k : ℤ) (way : ℝ), a + way ≡ c.corner k [PMOD 2 * pi] →
        |c.findNearestChassisErrorTo a| ≤ |way| := by
  have hne : c.numSnapPositions ≠ 0 := Nat.one_le_iff_ne_zero.1 hn
  obtain ⟨⟨i, hi⟩, hleast⟩ := c.findNearestChassisErrorTo_spec a
  obtain ⟨j, hj, hnear⟩ := exists_abs_cornerError_le hne a
  have hhalf : |c.findNearestChassisErrorTo a| ≤ c.angleBetweenCorners / 2 :=
    (hleast j hj).trans hnear
  have hcorner : a + c.findNearestChassisErrorTo a ≡ c.corner i [PMOD 2 * pi] := by
    rw [hi, ← AddCommGroup.modEq_sub_iff_add_modEq']
    exact (cornerError_construct a i).1
  refine ⟨?_, ⟨i, hcorner⟩, fun k way hway => ?_⟩
  · rwa [angleBetweenCorners, div_right_comm, mul_div_cancel_left₀ pi two_ne_zero] at hhalf
  · -- two corners differ by a multiple of the angle between neighbours
    apply Circle.abs_le_abs_of_modEq hhalf
    have hsame := (modEq_angleBetweenCorners hne hcorner).trans
      ((corner_modEq_snapAngle i).trans (corner_modEq_snapAngle k).symm)
    exact (hsame.trans (modEq_angleBetweenCorners hne hway).symm).add_left_cancel' a

theorem findNearestChassisErrorTo_nearest_square :
    1 ≤ (⟨4, pi / 4⟩ : SnapSymmetryConfig).numSnapPositions ∧
      |(⟨4, pi / 4⟩ : SnapSymmetryConfig).findNearestChassisErrorTo 0| ≤ pi / (4 : ℕ) :=
  ⟨by decide, (findNearestChassisErrorTo_nearest ⟨4, pi / 4⟩ (by decide) 0).1⟩

end SnapSymmetryConfig

end Aimbots.Chassis
