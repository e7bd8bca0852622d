import Mathlib.Algebra.Group.ModEq
import Mathlib.Algebra.Order.Round
import Mathlib.Tactic.FieldSimp
import Mathlib.Tactic.Linarith
import Mathlib.Tactic.LinearCombination
import Mathlib.Tactic.Ring

/-!
# Points of a circle

Points of a circle of circumference `p` are numbers modulo `p`.  The way from one point to another
that is at most half the circumference is the shortest one (`abs_le_abs_of_modEq`); of `n` points at
equal distances one is within half a distance of any point (`exists_equallySpaced_near`); the mean
of representatives of one point is a representative of it exactly if their turns have an integer
mean (`mean_modEq_iff`).
-/

namespace Aimbots.Circle

variable {K : Type*} [Field K] [LinearOrder K] [IsStrictOrderedRing K] {p : K}

/-- **The shortest way**: no representative is smaller than one that is at most half the
circumference. -/
theorem abs_le_abs_of_modEq {d e : K} (h : |d| ≤ p / 2) (hmod : d ≡ e [PMOD p]) : |d| ≤ |e| := by
  obtain ⟨z, rfl⟩ := AddCommGroup.modEq_iff_eq_add_zsmul.1 hmod
  have hp : 0 ≤ p := by linarith [abs_nonneg d]
  by_cases hz : z = 0
  · rw [hz, zero_smul, add_zero]
  · have hturn : p ≤ |z • p| := by
      rw [abs_zsmul, abs_of_nonneg hp, zsmul_eq_mul]
      have hone : (1 : K) ≤ (|z| : ℤ) := by exact_mod_cast Int.one_le_abs hz
      exact le_mul_of_one_le_left hp hone
    have htriangle : |z • p| ≤ |d + z • p| + |d| := by
      simpa using abs_sub (d + z • p) d
    linarith

/-- The mean of `count` representatives of `a` that have made `turns` turns altogether. -/
theorem mean_modEq_iff (hp : p ≠ 0) {count : ℕ} (hcount : count ≠ 0) (a : K) (turns : ℤ) :
    (count * a + turns * p) / count ≡ a [PMOD p] ↔ (count : ℤ) ∣ turns := by
  have hne : (count : K) ≠ 0 := Nat.cast_ne_zero.2 hcount
  rw [AddCommGroup.modEq_comm, AddCommGroup.modEq_iff_eq_add_zsmul]
  constructor
  · rintro ⟨z, hz⟩
    have hturns : turns * p = (count * z : ℤ) * p := by
      rw [zsmul_eq_mul, div_eq_iff hne] at hz
      push_cast
      linear_combination hz
    exact ⟨z, by exact_mod_cast mul_right_cancel₀ hp hturns⟩
  · rintro ⟨z, rfl⟩
    refine ⟨z, ?_⟩
    rw [zsmul_eq_mul, div_eq_iff hne]
    push_cast
    ring

section EquallySpaced

variable [FloorRing K]

/-- Some multiple of the distance of neighbours is within half of it. -/
theorem exists_multiple_near {step : K} (hstep : 0 < step) (x : K) :
    ∃ k : ℤ, |k * step - x| ≤ step / 2 := by
  refine ⟨round (x / step), ?_⟩
  have hround := abs_sub_round (x / step)
  have hscale : round (x / step) * step - x = -((x / step - round (x / step)) * step) := by
    rw [sub_mul, div_mul_cancel₀ x hstep.ne']
    ring
  rw [hscale, abs_neg, abs_mul, abs_of_pos hstep]
  linarith [mul_le_mul_of_nonneg_right hround hstep.le]

/-- **Equally spaced points cover the circle**: one of `n` is within half a distance of `x`. -/
theorem exists_equallySpaced_near (hp : 0 < p) {n : ℕ} (hn : n ≠ 0) (x : K) :
    ∃ i < n, ∃ d : K, i * (p / n) - x ≡ d [PMOD p] ∧ |d| ≤ p / n / 2 := by
  have hn' : (n : K) ≠ 0 := Nat.cast_ne_zero.2 hn
  have hpos : (0 : ℤ) < n := by omega
  obtain ⟨k, hk⟩ := exists_multiple_near (div_pos hp (by positivity : (0 : K) < n)) x
  have hindex : ((k % n).toNat : ℤ) = k % n := Int.toNat_of_nonneg (Int.emod_nonneg k hpos.ne')
  refine ⟨(k % n).toNat, ?_, k * (p / n) - x, ?_, hk⟩
  · have hlt := Int.emod_lt_of_pos k hpos
    omega
  · rw [AddCommGroup.modEq_iff_eq_add_zsmul]
    refine ⟨k / n, ?_⟩
    have hdiv : ((k % n).toNat : K) + n * (k / n : ℤ) = k := by
      have hsplit : ((k % n).toNat : ℤ) + n * (k / n) = k := by
        rw [hindex]
        exact Int.emod_add_mul_ediv k n
      exact_mod_cast congrArg (Int.cast (R := K)) hsplit
    rw [← hdiv, zsmul_eq_mul]
    field_simp
    ring

end EquallySpaced

end Aimbots.Circle
