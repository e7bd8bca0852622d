import Mathlib.Algebra.Order.Field.Power
import Mathlib.Algebra.Order.Floor.Ring
import Mathlib.Data.Int.Log
import Mathlib.Data.Rat.Floor
import Mathlib.Tactic.FieldSimp
import Mathlib.Tactic.Linarith
import Mathlib.Tactic.Positivity
import Mathlib.Tactic.NormNum
import Mathlib.Tactic.Ring

/-!
# Rounding to binary floating-point formats

`Format.round` rounds a rational number to the nearest number of a binary format with `precision`
digits and least exponent `minExponent`, ties to even.  Subnormal numbers are included; the
exponent is not bounded above, so a value beyond the largest finite number of the format is not
turned into an infinity.

* `roundEven` is the nearest integer, ties to even.
* `Format.le_round` and `Format.round_le`: below `2 ^ precision` rounding respects every integer.
* `Format.abs_round_sub_le`: the error is at most half a unit in the last place.
* `truncate` is the conversion of a number to an integer.
-/

namespace Aimbots

/-- The nearest integer; of two nearest ones, the even one. -/
def roundEven (x : ℚ) : ℤ :=
  if x - ⌊x⌋ < 1 / 2 then ⌊x⌋
  else if 1 / 2 < x - ⌊x⌋ then ⌊x⌋ + 1
  else ⌊x⌋ + ⌊x⌋ % 2

section roundEven

variable {x : ℚ} {k : ℤ}

theorem floor_le_roundEven (x : ℚ) : ⌊x⌋ ≤ roundEven x := by
  unfold roundEven
  split_ifs <;> omega

theorem roundEven_le_floor_add_one (x : ℚ) : roundEven x ≤ ⌊x⌋ + 1 := by
  unfold roundEven
  split_ifs <;> omega

@[simp] theorem roundEven_intCast (k : ℤ) : roundEven k = k := by
  simp [roundEven]

theorem abs_roundEven_sub_le (x : ℚ) : |(roundEven x : ℚ) - x| ≤ 1 / 2 := by
  have h₀ := Int.floor_le x
  have h₁ := Int.lt_floor_add_one x
  have hmod : ⌊x⌋ % 2 = 0 ∨ ⌊x⌋ % 2 = 1 := by omega
  unfold roundEven
  rw [abs_le]
  split_ifs
  · constructor <;> linarith
  · push_cast
    constructor <;> linarith
  · rcases hmod with hmod | hmod <;> rw [hmod] <;> push_cast <;> constructor <;> linarith

theorem le_roundEven (h : (k : ℚ) ≤ x) : k ≤ roundEven x :=
  (Int.le_floor.2 h).trans (floor_le_roundEven x)

theorem roundEven_le (h : x ≤ k) : roundEven x ≤ k := by
  rcases h.lt_or_eq with h | rfl
  · have hlt : ⌊x⌋ < k := Int.floor_lt.2 h
    have hle := roundEven_le_floor_add_one x
    omega
  · rw [roundEven_intCast]

/-- A number rounds below an even integer exactly if it is more than one half below it. -/
theorem roundEven_lt_iff_of_even (hk : k % 2 = 0) : roundEven x < k ↔ x < k - 1 / 2 := by
  constructor
  · intro h
    by_contra! hge
    have hfloor : ⌊x⌋ = k - 1 := by
      have hlt : ⌊x⌋ < k := (floor_le_roundEven x).trans_lt h
      have hle : k - 1 ≤ ⌊x⌋ := Int.le_floor.2 (by push_cast; linarith)
      omega
    have hfrac : ¬ x - ⌊x⌋ < 1 / 2 := by
      rw [hfloor]; push_cast; linarith
    rw [roundEven, if_neg hfrac] at h
    split_ifs at h <;> omega
  · intro h
    have herr := abs_le.1 (abs_roundEven_sub_le x)
    have hlt : (roundEven x : ℚ) < k := by linarith
    exact_mod_cast hlt

/-- A number rounds above an even integer exactly if it is more than one half above it. -/
theorem lt_roundEven_iff_of_even (hk : k % 2 = 0) : k < roundEven x ↔ k + 1 / 2 < x := by
  constructor
  · intro h
    by_contra! hle
    have hfloor : ⌊x⌋ = k := by
      have hge : k ≤ ⌊x⌋ := by have := roundEven_le_floor_add_one x; omega
      have hlt : ⌊x⌋ < k + 1 := Int.floor_lt.2 (by push_cast; linarith)
      omega
    have hfrac : ¬ 1 / 2 < x - ⌊x⌋ := by
      rw [hfloor]; linarith
    rw [roundEven, if_neg hfrac] at h
    split_ifs at h <;> omega
  · intro h
    have herr := abs_le.1 (abs_roundEven_sub_le x)
    have hlt : (k : ℚ) < roundEven x := by linarith
    exact_mod_cast hlt

end roundEven

/-- A binary floating-point format. -/
structure Format where
  precision : ℕ
  minExponent : ℤ

namespace Format

/-- `float`. -/
def binary32 : Format := ⟨24, -149⟩

/-- `double`. -/
def binary64 : Format := ⟨53, -1074⟩

variable (F : Format) {x : ℚ} {k b : ℤ}

/-- The exponent of the last place of the numbers near `x`. -/
def exponent (x : ℚ) : ℤ := max (Int.log 2 |x| + 1 - F.precision) F.minExponent

/-- Rounding to nearest, ties to even. -/
def round (x : ℚ) : ℚ := roundEven (x / 2 ^ F.exponent x) * 2 ^ F.exponent x

@[simp] theorem round_zero : F.round 0 = 0 := by
  have h : roundEven 0 = 0 := by exact_mod_cast roundEven_intCast 0
  simp [round, h]

/-- Below `2 ^ b` the last place is at most that of the numbers of `b` digits. -/
theorem exponent_le (hpos : 0 < b) (hx : |x| < 2 ^ b) (hb : F.minExponent ≤ b - F.precision) :
    F.exponent x ≤ b - F.precision := by
  refine max_le ?_ hb
  rcases eq_or_ne x 0 with rfl | hne
  · rw [abs_zero, Int.log_zero_right]
    omega
  · have hlog : Int.log 2 |x| < b :=
      (Int.lt_zpow_iff_log_lt (by norm_num) (abs_pos.2 hne)).1 (by exact_mod_cast hx)
    omega

/-- From `2 ^ (b - 1)` on the last place is at least that of the numbers of `b` digits. -/
theorem le_exponent (hx : 2 ^ (b - 1) ≤ |x|) : b - F.precision ≤ F.exponent x := by
  have hpos : (0 : ℚ) < |x| := lt_of_lt_of_le (by positivity) hx
  have hlog : b - 1 ≤ Int.log 2 |x| :=
    (Int.zpow_le_iff_le_log (by norm_num) hpos).1 (by exact_mod_cast hx)
  exact le_max_of_le_left (by omega)

variable {F}

/-- A multiple of a place that is not finer than the last one, measured in the last one. -/
theorem exists_div_eq {e : ℤ} (he : F.exponent x ≤ e) (n : ℤ) :
    ∃ m : ℤ, (n : ℚ) * 2 ^ e / 2 ^ F.exponent x = m := by
  obtain ⟨m, hm⟩ := Int.le.dest he
  refine ⟨n * 2 ^ m, ?_⟩
  have hpos : (0 : ℚ) < 2 ^ F.exponent x := by positivity
  rw [← hm, zpow_add₀ two_ne_zero, zpow_natCast]
  push_cast
  rw [div_eq_iff hpos.ne']
  ring

/-- Numbers that are multiples of the last place are not rounded. -/
theorem round_eq_self {e : ℤ} (he : F.exponent x ≤ e) (hx : ∃ n : ℤ, x = n * 2 ^ e) :
    F.round x = x := by
  obtain ⟨n, hn⟩ := hx
  obtain ⟨m, hm⟩ := exists_div_eq he n
  have hpos : (0 : ℚ) < 2 ^ F.exponent x := by positivity
  rw [← hn] at hm
  rw [round, hm, roundEven_intCast, ← hm, div_mul_cancel₀ _ hpos.ne']

/-- The error is at most half of the last place. -/
theorem abs_round_sub_le (x : ℚ) : |F.round x - x| ≤ 2 ^ F.exponent x / 2 := by
  have hpos : (0 : ℚ) < 2 ^ F.exponent x := by positivity
  have hfactor : F.round x - x =
      (roundEven (x / 2 ^ F.exponent x) - x / 2 ^ F.exponent x) * 2 ^ F.exponent x := by
    rw [round, sub_mul, div_mul_cancel₀ _ hpos.ne']
  rw [hfactor, abs_mul, abs_of_pos hpos]
  have herr := abs_roundEven_sub_le (x / 2 ^ F.exponent x)
  calc |(roundEven (x / 2 ^ F.exponent x) : ℚ) - x / 2 ^ F.exponent x| * 2 ^ F.exponent x
      ≤ 1 / 2 * 2 ^ F.exponent x := mul_le_mul_of_nonneg_right herr hpos.le
    _ = 2 ^ F.exponent x / 2 := by ring

/-- The error of a number is at most half a unit in the last of `precision` digits, or half of the
smallest number of the format. -/
theorem abs_round_sub_le_mul (x : ℚ) :
    |F.round x - x| ≤ 2 ^ (-F.precision : ℤ) * |x| + 2 ^ F.minExponent / 2 := by
  rcases eq_or_ne x 0 with rfl | hne
  · rw [round_zero, sub_zero, abs_zero, mul_zero, zero_add]
    positivity
  have hlog : (2 : ℚ) ^ (Int.log 2 |x| + 1 - F.precision) / 2 ≤ 2 ^ (-F.precision : ℤ) * |x| := by
    have hsplit : (2 : ℚ) ^ (Int.log 2 |x| + 1 - F.precision) / 2 =
        2 ^ (-F.precision : ℤ) * 2 ^ Int.log 2 |x| := by
      rw [show Int.log 2 |x| + 1 - (F.precision : ℤ) = -F.precision + Int.log 2 |x| + 1 by ring,
        zpow_add₀ two_ne_zero, zpow_add₀ two_ne_zero, zpow_one]
      ring
    rw [hsplit]
    gcongr
    exact_mod_cast Int.zpow_log_le_self (b := 2) (by norm_num) (abs_pos.2 hne)
  have hmul : (0 : ℚ) ≤ 2 ^ (-F.precision : ℤ) * |x| := by positivity
  have hmin : (0 : ℚ) < 2 ^ F.minExponent := by positivity
  refine (abs_round_sub_le x).trans ?_
  rcases max_choice (Int.log 2 |x| + 1 - F.precision) F.minExponent with he | he <;>
    rw [exponent, he] <;> linarith

/-- Rounding does not cross a multiple of a place that is not finer than the last one. -/
theorem le_round {e : ℤ} (he : F.exponent x ≤ e) (h : (k : ℚ) * 2 ^ e ≤ x) :
    (k : ℚ) * 2 ^ e ≤ F.round x := by
  obtain ⟨m, hm⟩ := exists_div_eq he k
  have hpos : (0 : ℚ) < 2 ^ F.exponent x := by positivity
  rw [div_eq_iff hpos.ne'] at hm
  rw [hm, ← le_div_iff₀ hpos] at h
  rw [hm, round]
  exact mul_le_mul_of_nonneg_right (by exact_mod_cast le_roundEven h) hpos.le

theorem round_le {e : ℤ} (he : F.exponent x ≤ e) (h : x ≤ (k : ℚ) * 2 ^ e) :
    F.round x ≤ (k : ℚ) * 2 ^ e := by
  obtain ⟨m, hm⟩ := exists_div_eq he k
  have hpos : (0 : ℚ) < 2 ^ F.exponent x := by positivity
  rw [div_eq_iff hpos.ne'] at hm
  rw [hm, ← div_le_iff₀ hpos] at h
  rw [hm, round]
  exact mul_le_mul_of_nonneg_right (by exact_mod_cast roundEven_le h) hpos.le

theorem round_nonneg (h : 0 ≤ x) : 0 ≤ F.round x := by
  have hle := le_round (F := F) (x := x) (k := 0) le_rfl (by rwa [Int.cast_zero, zero_mul])
  rwa [Int.cast_zero, zero_mul] at hle

/-- The error below `2 ^ b`, in terms of the last place of the numbers of `b` digits. -/
theorem abs_round_sub_le_of_lt (hpos : 0 < b) (hx : |x| < 2 ^ b)
    (hb : F.minExponent ≤ b - F.precision) : |F.round x - x| ≤ 2 ^ (b - F.precision) / 2 := by
  refine (abs_round_sub_le x).trans ?_
  have hle := F.exponent_le hpos hx hb
  have hmono : (2 : ℚ) ^ F.exponent x ≤ 2 ^ (b - F.precision) :=
    zpow_le_zpow_right₀ (by norm_num) hle
  linarith

/-- Between two powers of two rounding happens in one unit, and the tie below an even multiple of it
goes up. -/
theorem round_lt_iff {n : ℤ} (hlo : 2 ^ (b - 1) ≤ |x|) (hhi : |x| < 2 ^ b) (hpos : 0 < b)
    (hb : F.minExponent ≤ b - F.precision) (hn : n % 2 = 0) :
    F.round x < n * 2 ^ (b - F.precision) ↔ x < (n - 1 / 2) * 2 ^ (b - F.precision) := by
  have he : F.exponent x = b - F.precision :=
    le_antisymm (F.exponent_le hpos hhi hb) (F.le_exponent hlo)
  have hunit : (0 : ℚ) < 2 ^ (b - F.precision) := by positivity
  rw [round, he, mul_lt_mul_iff_left₀ hunit, Int.cast_lt, roundEven_lt_iff_of_even hn,
    div_lt_iff₀ hunit]

theorem lt_round_iff {n : ℤ} (hlo : 2 ^ (b - 1) ≤ |x|) (hhi : |x| < 2 ^ b) (hpos : 0 < b)
    (hb : F.minExponent ≤ b - F.precision) (hn : n % 2 = 0) :
    n * 2 ^ (b - F.precision) < F.round x ↔ (n + 1 / 2) * 2 ^ (b - F.precision) < x := by
  have he : F.exponent x = b - F.precision :=
    le_antisymm (F.exponent_le hpos hhi hb) (F.le_exponent hlo)
  have hunit : (0 : ℚ) < 2 ^ (b - F.precision) := by positivity
  rw [round, he, mul_lt_mul_iff_left₀ hunit, Int.cast_lt, lt_roundEven_iff_of_even hn,
    lt_div_iff₀ hunit]

/-- Only zero and what is smaller than every number of the format round to zero. -/
theorem round_ne_zero (hp : 0 < F.precision) (hx : 2 ^ F.minExponent ≤ |x|) : F.round x ≠ 0 := by
  intro h
  have hpos : (0 : ℚ) < |x| := lt_of_lt_of_le (by positivity) hx
  have herr := abs_round_sub_le (F := F) x
  rw [h, zero_sub, abs_neg] at herr
  have hunit : (2 : ℚ) ^ F.exponent x ≤ |x| := by
    rcases max_choice (Int.log 2 |x| + 1 - F.precision) F.minExponent with he | he
    · rw [exponent, he]
      calc (2 : ℚ) ^ (Int.log 2 |x| + 1 - F.precision) ≤ 2 ^ Int.log 2 |x| :=
            zpow_le_zpow_right₀ (by norm_num) (by omega)
        _ ≤ |x| := by exact_mod_cast Int.zpow_log_le_self (b := 2) (by norm_num) hpos
    · rw [exponent, he]
      exact hx
  have hunit_pos : (0 : ℚ) < 2 ^ F.exponent x := by positivity
  linarith

/-- Integers of at most 24 digits are numbers of `float`. -/
theorem round_intCast (h : |k| < 2 ^ 24) : binary32.round k = k := by
  refine round_eq_self (e := 0) ?_ ⟨k, by simp⟩
  exact binary32.exponent_le (b := 24) (by norm_num) (by exact_mod_cast h) (by decide)

end Format

/-- The conversion to an integer: the part behind the point is dropped. -/
def truncate (x : ℚ) : ℤ := if 0 ≤ x then ⌊x⌋ else ⌈x⌉

@[simp] theorem truncate_intCast (k : ℤ) : truncate k = k := by
  simp [truncate]

theorem le_truncate {x : ℚ} {k : ℤ} (h : (k : ℚ) ≤ x) : k ≤ truncate x := by
  unfold truncate
  split_ifs
  · exact Int.le_floor.2 h
  · exact_mod_cast h.trans (Int.le_ceil x)

theorem truncate_le {x : ℚ} {k : ℤ} (h : x ≤ k) : truncate x ≤ k := by
  unfold truncate
  split_ifs
  · exact_mod_cast (Int.floor_le x).trans h
  · exact Int.ceil_le.2 h

theorem lt_truncate_iff {x : ℚ} {k : ℤ} (hk : k < 0) : k < truncate x ↔ (k : ℚ) < x := by
  refine ⟨fun h => lt_of_not_ge fun hle => (truncate_le hle).not_gt h, fun h => ?_⟩
  unfold truncate
  split_ifs with h0
  · exact hk.trans_le (Int.floor_nonneg.2 h0)
  · exact Int.lt_ceil.2 h

theorem truncate_lt_iff {x : ℚ} {k : ℤ} (hk : 0 < k) : truncate x < k ↔ x < k := by
  refine ⟨fun h => lt_of_not_ge fun hle => (le_truncate hle).not_gt h, fun h => ?_⟩
  unfold truncate
  split_ifs with h0
  · exact Int.floor_lt.2 h
  · exact (Int.ceil_le.2 (by push_cast; linarith : x ≤ ((0 : ℤ) : ℚ))).trans_lt hk

theorem truncate_eq_of_nonneg {x : ℚ} {n : ℕ} (h₀ : (n : ℚ) ≤ x) (h₁ : x < n + 1) :
    truncate x = n := by
  rw [truncate, if_pos ((Nat.cast_nonneg n).trans h₀), Int.floor_eq_iff]
  exact ⟨by exact_mod_cast h₀, by exact_mod_cast h₁⟩

end Aimbots
