import Mathlib.Algebra.Order.ToIntervalMod
import Mathlib.Tactic.FieldSimp
import Mathlib.Tactic.Linarith
import Mathlib.Tactic.LinearCombination

/-!
# The truncating remainder

`fmod x y` is the remainder of a division whose quotient is rounded towards zero, so that it has the
sign of `x`.  A remainder in `[0, y)` is the representative of `x` there, as Mathlib's `toIcoMod`
has it (`fmod_eq_toIcoMod`); a negative `x` that `y` does not divide leaves a remainder one `y`
below that representative (`fmod_of_neg`).
-/

namespace Aimbots

variable {K : Type*} [Field K] [LinearOrder K] [IsStrictOrderedRing K] [FloorRing K]

/-- A number without its fractional part. -/
def truncToInt (x : K) : ℤ := if 0 ≤ x then ⌊x⌋ else ⌈x⌉

/-- The remainder of a division that rounds towards zero. -/
def fmod (x y : K) : K := x - truncToInt (x / y) * y

omit [IsStrictOrderedRing K] in
theorem truncToInt_of_nonneg {x : K} (hx : 0 ≤ x) : truncToInt x = ⌊x⌋ := if_pos hx

theorem truncToInt_of_nonpos {x : K} (hx : x ≤ 0) : truncToInt x = ⌈x⌉ := by
  rcases hx.lt_or_eq with hx | rfl
  · exact if_neg (not_le.2 hx)
  · simp [truncToInt]

omit [IsStrictOrderedRing K] in
/-- A remainder differs from the dividend by a multiple of the divisor. -/
theorem fmod_eq_add (x y : K) : ∃ n : ℤ, fmod x y = x + n * y :=
  ⟨-truncToInt (x / y), by rw [fmod]; push_cast; ring⟩

section Pos

variable {x y : K} (hy : 0 < y)
include hy

theorem fmod_nonneg (hx : 0 ≤ x) : 0 ≤ fmod x y := by
  have hle := (le_div_iff₀ hy).1 (Int.floor_le (x / y))
  rw [fmod, truncToInt_of_nonneg (div_nonneg hx hy.le)]
  linarith

theorem fmod_lt (hx : 0 ≤ x) : fmod x y < y := by
  have hlt := (div_lt_iff₀ hy).1 (Int.lt_floor_add_one (x / y))
  rw [fmod, truncToInt_of_nonneg (div_nonneg hx hy.le)]
  linarith

theorem fmod_nonpos (hx : x ≤ 0) : fmod x y ≤ 0 := by
  have hle := (div_le_iff₀ hy).1 (Int.le_ceil (x / y))
  rw [fmod, truncToInt_of_nonpos (div_nonpos_of_nonpos_of_nonneg hx hy.le)]
  linarith

theorem neg_lt_fmod (hx : x ≤ 0) : -y < fmod x y := by
  have hlt := (lt_div_iff₀ hy).1 (sub_lt_iff_lt_add.2 (Int.ceil_lt_add_one (x / y)))
  rw [fmod, truncToInt_of_nonpos (div_nonpos_of_nonpos_of_nonneg hx hy.le)]
  linarith

/-- A remainder in `[0, y)` is the representative of the dividend there. -/
theorem fmod_eq_toIcoMod (hpos : 0 ≤ fmod x y) (hlt : fmod x y < y) :
    fmod x y = toIcoMod hy 0 x := by
  obtain ⟨n, hn⟩ := fmod_eq_add x y
  refine ((toIcoMod_eq_iff hy).2 ⟨⟨hpos, by rwa [zero_add]⟩, -n, ?_⟩).symm
  rw [hn, zsmul_eq_mul]
  push_cast
  ring

theorem fmod_eq_self (hx : |x| < y) : fmod x y = x := by
  obtain ⟨hlt, hgt⟩ := abs_lt.1 hx
  have htrunc : truncToInt (x / y) = 0 := by
    rcases le_total 0 x with h | h
    · rw [truncToInt_of_nonneg (div_nonneg h hy.le), Int.floor_eq_zero_iff]
      exact ⟨div_nonneg h hy.le, (div_lt_one hy).2 hgt⟩
    · rw [truncToInt_of_nonpos (div_nonpos_of_nonpos_of_nonneg h hy.le), Int.ceil_eq_zero_iff]
      exact ⟨by rwa [lt_div_iff₀ hy, neg_one_mul], div_nonpos_of_nonpos_of_nonneg h hy.le⟩
  rw [fmod, htrunc, Int.cast_zero, zero_mul, sub_zero]

/-- Below zero the remainder does not change when the divisor is added. -/
theorem fmod_add_self (hx : x ≤ -y) : fmod (x + y) y = fmod x y := by
  have hle : x / y ≤ -1 := by rwa [div_le_iff₀ hy, neg_one_mul]
  rw [fmod, fmod, add_div, div_self hy.ne', truncToInt_of_nonpos (by linarith),
    truncToInt_of_nonpos (by linarith), Int.ceil_add_one]
  push_cast
  ring

/-- A divisor leaves no remainder. -/
theorem fmod_eq_zero (h : ∃ n : ℤ, x = n * y) : fmod x y = 0 := by
  obtain ⟨n, rfl⟩ := h
  rw [fmod, mul_div_cancel_right₀ _ hy.ne', truncToInt]
  simp

theorem fmod_of_neg (hx : x < 0) (h : ¬ ∃ n : ℤ, x = n * y) :
    fmod x y = toIcoMod hy 0 x - y := by
  obtain ⟨n, hn⟩ := fmod_eq_add x y
  have hneg : fmod x y ≠ 0 := fun hzero =>
    h ⟨-n, by push_cast; linear_combination hn.symm.trans hzero⟩
  have hlt := (fmod_nonpos hy hx.le).lt_of_ne hneg
  have hgt := neg_lt_fmod hy hx.le
  rw [eq_sub_iff_add_eq]
  refine ((toIcoMod_eq_iff hy).2 ⟨⟨by linarith, by linarith⟩, -n - 1, ?_⟩).symm
  rw [hn, zsmul_eq_mul]
  push_cast
  ring

/-- The remainder is in `[0, y)` exactly if the dividend is not negative or `y` divides it. -/
theorem fmod_mem_Ico_iff : fmod x y ∈ Set.Ico 0 y ↔ 0 ≤ x ∨ ∃ n : ℤ, x = n * y := by
  constructor
  · intro hmem
    by_contra! hnot
    have hmod := toIcoMod_mem_Ico' hy x
    have heq := fmod_of_neg hy hnot.1 (by simpa using hnot.2)
    rw [heq] at hmem
    linarith [hmem.1, hmod.2]
  · rintro (hx | h)
    · exact ⟨fmod_nonneg hy hx, fmod_lt hy hx⟩
    · rw [fmod_eq_zero hy h]
      exact ⟨le_rfl, hy⟩

end Pos

end Aimbots
