import Aimbots.Library.TruncatedRemainder
import Mathlib.Algebra.Group.ModEq
import Mathlib.Tactic.Positivity

/-!
# `WrappedFloat`

A value that wraps around between two bounds, with the revolutions that it has made.  The bounds of
every object stay what its constructor was given, so they are parameters here.
-/

namespace Aimbots.Tap

/-- `WrappedFloat`. -/
structure WrappedFloat {K : Type*} (lowerBound upperBound : K) where
  wrapped : K
  revolutions : ℤ

namespace WrappedFloat

variable {K : Type*} [Field K] [LinearOrder K] [IsStrictOrderedRing K] [FloorRing K]
variable {lowerBound upperBound : K}

/-- `wrapValue`. -/
def wrapValue (w : WrappedFloat lowerBound upperBound) : WrappedFloat lowerBound upperBound where
  wrapped :=
    if w.wrapped < lowerBound then
      upperBound + fmod (w.wrapped - upperBound) (upperBound - lowerBound)
    else if w.wrapped ≥ upperBound - 1 / 100000 then
      lowerBound + fmod (w.wrapped - lowerBound) (upperBound - lowerBound)
    else w.wrapped
  revolutions :=
    w.revolutions + truncToInt ((w.wrapped - lowerBound) / (upperBound - lowerBound))

/-- The constructor. -/
def construct (value : K) : WrappedFloat lowerBound upperBound := wrapValue ⟨value, 0⟩

/-- `setWrappedValue`. -/
def setWrappedValue (w : WrappedFloat lowerBound upperBound) (newWrappedValue : K) :
    WrappedFloat lowerBound upperBound :=
  wrapValue { w with wrapped := newWrappedValue }

/-- `minDifference`, to another value between the same bounds. -/
def minDifference (w other : WrappedFloat lowerBound upperBound) : K :=
  let interval := upperBound - lowerBound
  let difference_between := other.wrapped - w.wrapped
  let difference_around :=
    difference_between + if difference_between < 0 then interval else -interval
  if |difference_between| < |difference_around| then difference_between else difference_around

/-- `minDifference`, to a value that is wrapped first. -/
def minDifferenceTo (w : WrappedFloat lowerBound upperBound) (unwrappedValue : K) : K :=
  w.minDifference (construct unwrappedValue)

omit [FloorRing K] in
theorem minDifference_self (w : WrappedFloat lowerBound upperBound) (h : lowerBound < upperBound) :
    w.minDifference w = 0 := by
  have hspan : 0 < upperBound - lowerBound := sub_pos.2 h
  have haround : |(0 : K)| < |-(upperBound - lowerBound)| := by
    rw [abs_neg, abs_of_pos hspan, abs_zero]
    exact hspan
  simp only [minDifference, sub_self, lt_irrefl, if_false, zero_add, if_pos haround]

/-- A value between the bounds stays as it is. -/
theorem setWrappedValue_of_mem (w : WrappedFloat lowerBound upperBound) {v : K}
    (hv : v ∈ Set.Ico lowerBound upperBound) : (w.setWrappedValue v).wrapped = v := by
  have hspan : 0 < upperBound - lowerBound := sub_pos.2 (hv.1.trans_lt hv.2)
  have hfmod : fmod (v - lowerBound) (upperBound - lowerBound) = v - lowerBound :=
    fmod_eq_self hspan (abs_lt.2 ⟨by linarith [hv.1], by linarith [hv.2]⟩)
  simp only [setWrappedValue, wrapValue, if_neg (not_lt.2 hv.1), hfmod, add_sub_cancel, ite_self]

/-- A value less than one interval below the lower bound moves up by one interval. -/
theorem setWrappedValue_of_lt (w : WrappedFloat lowerBound upperBound) {v : K}
    (hlt : v < lowerBound) (hgt : lowerBound - (upperBound - lowerBound) < v) :
    (w.setWrappedValue v).wrapped = v + (upperBound - lowerBound) := by
  have hspan : 0 < upperBound - lowerBound := by linarith
  have hfmod : fmod (v - upperBound) (upperBound - lowerBound) = v - lowerBound := by
    rw [← fmod_add_self hspan (by linarith), sub_add_sub_cancel]
    exact fmod_eq_self hspan (abs_lt.2 ⟨by linarith, by linarith⟩)
  simp only [setWrappedValue, wrapValue, if_pos hlt, hfmod]
  ring

omit [IsStrictOrderedRing K] in
/-- Wrapping moves a value by whole intervals. -/
theorem wrapped_wrapValue_modEq (w : WrappedFloat lowerBound upperBound) :
    w.wrapValue.wrapped ≡ w.wrapped [PMOD upperBound - lowerBound] := by
  have hturns (bound : K) : bound + fmod (w.wrapped - bound) (upperBound - lowerBound) ≡ w.wrapped
      [PMOD upperBound - lowerBound] := by
    obtain ⟨z, hz⟩ := fmod_eq_add (w.wrapped - bound) (upperBound - lowerBound)
    refine AddCommGroup.modEq_iff_eq_add_zsmul.2 ⟨-z, ?_⟩
    rw [hz, zsmul_eq_mul]
    push_cast
    ring
  unfold wrapValue
  dsimp only
  split_ifs
  · exact hturns upperBound
  · exact hturns lowerBound
  · exact AddCommGroup.modEq_rfl

omit [IsStrictOrderedRing K] in
/-- The value that was set, up to whole intervals. -/
theorem wrapped_setWrappedValue_modEq (w : WrappedFloat lowerBound upperBound) (v : K) :
    (w.setWrappedValue v).wrapped ≡ v [PMOD upperBound - lowerBound] :=
  wrapped_wrapValue_modEq _

/-- A value that is wrapped is between the bounds, the upper one included. -/
theorem wrapped_wrapValue_mem (w : WrappedFloat lowerBound upperBound)
    (h : lowerBound < upperBound) :
    w.wrapValue.wrapped ∈ Set.Icc lowerBound upperBound := by
  have hspan : 0 < upperBound - lowerBound := sub_pos.2 h
  unfold wrapValue
  dsimp only
  split_ifs with hlow hhigh
  · have hneg : w.wrapped - upperBound ≤ 0 := by linarith
    have hgt := neg_lt_fmod hspan hneg
    have hle := fmod_nonpos hspan hneg
    constructor <;> linarith
  · have hpos : 0 ≤ w.wrapped - lowerBound := sub_nonneg.2 (not_lt.1 hlow)
    have hge := fmod_nonneg hspan hpos
    have hlt := fmod_lt hspan hpos
    constructor <;> linarith
  · constructor <;> linarith

omit [IsStrictOrderedRing K] [FloorRing K] in
/-- The difference to another value, up to whole intervals. -/
theorem minDifference_modEq (w other : WrappedFloat lowerBound upperBound) :
    w.minDifference other ≡ other.wrapped - w.wrapped [PMOD upperBound - lowerBound] := by
  rw [AddCommGroup.modEq_iff_eq_add_zsmul]
  unfold minDifference
  dsimp only
  split_ifs
  · exact ⟨0, by rw [zero_smul, add_zero]⟩
  · exact ⟨-1, by rw [neg_one_smul, add_neg_cancel_right]⟩
  · exact ⟨0, by rw [zero_smul, add_zero]⟩
  · exact ⟨1, by rw [one_smul, neg_add_cancel_right]⟩

omit [FloorRing K] in
/-- Of two values at most an interval apart the difference is at most half an interval. -/
theorem abs_minDifference_le (w other : WrappedFloat lowerBound upperBound)
    (h : |other.wrapped - w.wrapped| ≤ upperBound - lowerBound) :
    |w.minDifference other| ≤ (upperBound - lowerBound) / 2 := by
  obtain ⟨hlow, hhigh⟩ := abs_le.1 h
  unfold minDifference
  dsimp only
  split_ifs with hneg hless hless
  · rw [abs_of_neg hneg, abs_of_nonneg (by linarith)] at hless
    rw [abs_of_neg hneg]
    linarith
  · rw [abs_of_neg hneg, abs_of_nonneg (by linarith)] at hless
    rw [abs_of_nonneg (by linarith)]
    linarith
  · rw [abs_of_nonneg (not_lt.1 hneg), abs_of_nonpos (by linarith)] at hless
    rw [abs_of_nonneg (not_lt.1 hneg)]
    linarith
  · rw [abs_of_nonneg (not_lt.1 hneg), abs_of_nonpos (by linarith)] at hless
    rw [abs_of_nonpos (by linarith)]
    linarith

/-- **The shortest way** from a wrapped value to another one: their difference up to whole
intervals, and at most half an interval. -/
theorem minDifferenceTo_construct (h : lowerBound < upperBound) (v unwrappedValue : K) :
    (construct v : WrappedFloat lowerBound upperBound).minDifferenceTo unwrappedValue ≡
        unwrappedValue - v [PMOD upperBound - lowerBound] ∧
      |(construct v : WrappedFloat lowerBound upperBound).minDifferenceTo unwrappedValue| ≤
        (upperBound - lowerBound) / 2 := by
  constructor
  · exact (minDifference_modEq _ _).trans
      ((wrapped_wrapValue_modEq _).sub (wrapped_wrapValue_modEq _))
  · obtain ⟨hlow, hhigh⟩ := wrapped_wrapValue_mem (⟨v, 0⟩ : WrappedFloat lowerBound upperBound) h
    obtain ⟨hlow', hhigh'⟩ :=
      wrapped_wrapValue_mem (⟨unwrappedValue, 0⟩ : WrappedFloat lowerBound upperBound) h
    apply abs_minDifference_le
    rw [construct, construct, abs_le]
    constructor <;> linarith

end WrappedFloat

end Aimbots.Tap
