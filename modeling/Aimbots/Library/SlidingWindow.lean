import Mathlib.Algebra.BigOperators.Intervals
import Mathlib.Algebra.BigOperators.Ring.Finset
import Mathlib.Data.Nat.ModEq
import Mathlib.Tactic.Ring

/-!
# The last values of a sequence

`past` gives the value that came a number of steps ago, and `push` makes a new value the last one.
A memory that is used in a circle holds the last values (`Holds`): the value that it overwrites is
the oldest (`Holds.oldest`, `Holds.write`).  The sum of the last values with the powers of a number
as weights can be computed from the sum before (`windowSum_push`).
-/

namespace Aimbots.SlidingWindow

open Finset

/-- The values one step later. -/
def push {A : Type*} (value : A) (past : ℕ → A) : ℕ → A
  | 0 => value
  | j + 1 => past j

section Memory

variable {A : Type*} {n t : ℕ} {memory past : ℕ → A}

/-- The memory holds the last `n` of `t` values, the next of which is written at `t % n`. -/
def Holds (n t : ℕ) (memory past : ℕ → A) : Prop :=
  ∀ j < n, memory ((t + (n - 1 - j)) % n) = past j

/-- The value that is overwritten is the oldest. -/
theorem Holds.oldest (h : Holds n t memory past) (hn : 0 < n) :
    memory (t % n) = past (n - 1) := by
  have hlast := h (n - 1) (Nat.sub_lt hn Nat.one_pos)
  rwa [Nat.sub_self, Nat.add_zero] at hlast

/-- **A new value** takes the place of the oldest. -/
theorem Holds.write (h : Holds n t memory past) (hn : 0 < n) (value : A) :
    Holds n (t + 1) (Function.update memory (t % n) value) (push value past) := by
  intro j hj
  cases j with
  | zero =>
    have hwrap : t + 1 + (n - 1 - 0) = t + n := by omega
    rw [hwrap, Nat.add_mod_right, Function.update_self]
    rfl
  | succ j =>
    have hsame : t + 1 + (n - 1 - (j + 1)) = t + (n - 1 - j) := by omega
    have hne : (t + (n - 1 - j)) % n ≠ t % n := by
      intro heq
      have hmod : (n - 1 - j) % n = 0 % n := Nat.ModEq.add_left_cancel' t heq
      rw [Nat.mod_eq_of_lt (by omega), Nat.zero_mod] at hmod
      omega
    rw [hsame, Function.update_of_ne hne]
    exact h j (Nat.lt_of_succ_lt hj)

end Memory

section Sum

variable {R : Type*} [CommRing R]

/-- The last `n` values, weighted with powers of `q`. -/
def windowSum (q : R) (n : ℕ) (past : ℕ → R) : R := ∑ j ∈ range n, q ^ j * past j

/-- **The sum one step later**. -/
theorem windowSum_push (q : R) {n : ℕ} (hn : 0 < n) (value : R) (past : ℕ → R) :
    windowSum q n (push value past) =
      value + q * windowSum q n past - q ^ n * past (n - 1) := by
  obtain ⟨m, rfl⟩ := Nat.exists_eq_add_one_of_ne_zero hn.ne'
  rw [windowSum, windowSum, sum_range_succ', sum_range_succ, mul_add, mul_sum]
  have hshift : ∑ j ∈ range m, q ^ (j + 1) * push value past (j + 1) =
      ∑ j ∈ range m, q * (q ^ j * past j) :=
    sum_congr rfl fun j _ => by rw [pow_succ', mul_assoc]; rfl
  have hfirst : push value past 0 = value := rfl
  rw [hshift, hfirst, Nat.add_sub_cancel, pow_zero]
  ring

end Sum

end Aimbots.SlidingWindow
