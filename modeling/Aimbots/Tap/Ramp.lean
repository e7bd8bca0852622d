import Mathlib.Algebra.Order.Field.Rat
import Mathlib.Algebra.Order.Group.MinMax
import Mathlib.Algebra.Order.Group.Abs
import Mathlib.Tactic.Linarith
import Mathlib.Tactic.NormNum
import Mathlib.Tactic.Ring

/-!
# `tap/algorithms/ramp.cpp`: a value that follows a target

Each update moves the value to the target, by an increment at most (`update_cases`).
`abs_target_sub_update` says how far it has still to go.
-/

namespace Aimbots.Tap

/-- `copysign`. -/
def copysign (x y : ℚ) : ℚ := if y < 0 then -|x| else |x|

/-- `compareFloatClose`. -/
def compareFloatClose (val1 val2 epsilon : ℚ) : Bool := decide (|val1 - val2| ≤ epsilon)

/-- `RAMP_EPSILON`. -/
def RAMP_EPSILON : ℚ := 1 / 100000000000

theorem RAMP_EPSILON_pos : 0 < RAMP_EPSILON := by
  norm_num [RAMP_EPSILON]

/-- `Ramp`. -/
structure Ramp where
  target : ℚ
  value : ℚ
  targetReached : Bool
deriving DecidableEq, Repr

namespace Ramp

/-- The constructor. -/
def construct (initialValue : ℚ) : Ramp := ⟨initialValue, initialValue, true⟩

section Operations

variable (r : Ramp)

/-- `setTarget`. -/
def setTarget (target : ℚ) : Ramp :=
  if compareFloatClose target r.target RAMP_EPSILON then r
  else { r with target := target, targetReached := false }

/-- `update`. -/
def update (increment : ℚ) : Ramp :=
  let increment := copysign increment (r.target - r.value)
  let targetValueDifference := copysign (r.target - r.value) increment
  let value := if |targetValueDifference| > |increment| then r.value + increment else r.target
  { r with value := value, targetReached := compareFloatClose value r.target RAMP_EPSILON }

end Operations

theorem abs_copysign (x y : ℚ) : |copysign x y| = |x| := by
  rw [copysign]
  split
  · rw [abs_neg, abs_abs]
  · rw [abs_abs]

variable {r : Ramp} {increment : ℚ}

theorem setTarget_value (target : ℚ) : (r.setTarget target).value = r.value := by
  rw [setTarget]
  split <;> rfl

/-- A target that is set is a target up to the tolerance of the comparison, which keeps the one
before. -/
theorem abs_sub_setTarget_le (target : ℚ) :
    |target - (r.setTarget target).target| ≤ RAMP_EPSILON := by
  rw [setTarget]
  split
  · rename_i hclose
    exact of_decide_eq_true hclose
  · show |target - target| ≤ RAMP_EPSILON
    rw [sub_self, abs_zero]
    exact RAMP_EPSILON_pos.le

theorem setTarget_of_close {target : ℚ} (h : |target - r.target| ≤ RAMP_EPSILON) :
    r.setTarget target = r := by
  rw [setTarget, compareFloatClose, decide_eq_true h]
  exact if_pos rfl

theorem update_target (increment : ℚ) : (r.update increment).target = r.target := by
  rw [update]

/-- **One update**: the value is at the target if that is within reach, and otherwise the increment
nearer. -/
theorem update_cases (h : 0 ≤ increment) :
    (|r.target - r.value| ≤ increment ∧ (r.update increment).value = r.target) ∨
      (increment < r.target - r.value ∧ (r.update increment).value = r.value + increment) ∨
      (increment < r.value - r.target ∧ (r.update increment).value = r.value - increment) := by
  have hvalue : (r.update increment).value =
      if |r.target - r.value| > increment then r.value + copysign increment (r.target - r.value)
      else r.target := by
    rw [update]
    dsimp only
    rw [abs_copysign, abs_copysign, abs_of_nonneg h]
  rw [hvalue]
  by_cases hreach : |r.target - r.value| > increment
  · rw [if_pos hreach, copysign, abs_of_nonneg h]
    refine Or.inr ?_
    rcases lt_abs.1 hreach with habove | hbelow
    · rw [if_neg (by linarith)]
      exact Or.inl ⟨habove, rfl⟩
    · rw [if_pos (by linarith), ← sub_eq_add_neg]
      exact Or.inr ⟨by linarith, rfl⟩
  · rw [if_neg hreach]
    exact Or.inl ⟨not_lt.1 hreach, rfl⟩

theorem abs_update_sub_le (h : 0 ≤ increment) :
    |(r.update increment).value - r.value| ≤ increment := by
  rcases update_cases (r := r) h with ⟨hreach, hvalue⟩ | ⟨-, hvalue⟩ | ⟨-, hvalue⟩
  · rwa [hvalue]
  · rw [hvalue, add_sub_cancel_left, abs_of_nonneg h]
  · rw [hvalue, sub_sub_cancel_left, abs_neg, abs_of_nonneg h]

/-- The value stays between two bounds that are around it and its target. -/
theorem update_mem {low high : ℚ} (h : 0 ≤ increment) (htarget : low ≤ r.target ∧ r.target ≤ high)
    (hvalue : low ≤ r.value ∧ r.value ≤ high) :
    low ≤ (r.update increment).value ∧ (r.update increment).value ≤ high := by
  rcases update_cases (r := r) h with ⟨-, heq⟩ | ⟨hlt, heq⟩ | ⟨hlt, heq⟩
  · rwa [heq]
  · rw [heq]
    exact ⟨by linarith, by linarith⟩
  · rw [heq]
    exact ⟨by linarith, by linarith⟩

theorem abs_target_sub_update (h : 0 ≤ increment) :
    |r.target - (r.update increment).value| = max 0 (|r.target - r.value| - increment) := by
  rcases update_cases (r := r) h with ⟨hreach, hvalue⟩ | ⟨hlt, hvalue⟩ | ⟨hlt, hvalue⟩
  · rw [hvalue, sub_self, abs_zero, max_eq_left (sub_nonpos.2 hreach)]
  · rw [hvalue, abs_of_nonneg (by linarith), abs_of_nonneg (h.trans hlt.le),
      max_eq_right (by linarith)]
    ring
  · rw [hvalue, abs_of_nonpos (by linarith), abs_sub_comm, abs_of_nonneg (h.trans hlt.le),
      max_eq_right (by linarith)]
    ring

end Ramp

end Aimbots.Tap
