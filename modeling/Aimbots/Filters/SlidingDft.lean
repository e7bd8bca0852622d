import Aimbots.Library.Numerals
import Aimbots.Library.Run
import Aimbots.Library.SlidingWindow
import Mathlib.Analysis.SpecialFunctions.Complex.Circle

/-!
# `utils/math/sliding_dft.hpp`: the spectrum of the last samples

`update` computes the spectrum of the last samples from the spectrum before, in one step for each
frequency, and applies the window to the spectrum and not to the samples.  `dft_run` says that this
is the discrete Fourier transform of the last samples, each multiplied by the window and by a power
of the damping factor.

Numbers are real and complex, and the damping factor stays what it is, as the converter of the
vision data sets it before each update to the same number.
-/

namespace Aimbots.Filters

open Complex Finset
open Run (after)
open SlidingWindow
open scoped Numerals

noncomputable section

/-- The data members of `SlidingDFT` but the twiddle factors and the damping factor. -/
structure SlidingDFT where
  dataValid : Bool
  x : ℕ → ℝ
  xIndex : ℕ
  S : ℕ → ℂ
  dft : ℕ → ℂ

namespace SlidingDFT

/-- The twiddle factor of a frequency. -/
def twiddle (DFTLength k : ℕ) : ℂ :=
  exp (I * (2 * Real.pi * k / DFTLength))

/-- The constructor. -/
def construct : SlidingDFT := ⟨false, fun _ => 0, 0, fun _ => 0, fun _ => 0⟩

/-- The Hanning window, in the frequency domain. -/
def window (DFTLength : ℕ) (S : ℕ → ℂ) (k : ℕ) : ℂ :=
  if k = 0 then 1 / 2 * S 0 - 1 / 4 * (S (DFTLength - 1) + S 1)
  else if k < DFTLength - 1 then 1 / 2 * S k - 1 / 4 * (S (k - 1) + S (k + 1))
  else 1 / 2 * S (DFTLength - 1) - 1 / 4 * (S (DFTLength - 2) + S 0)

/-- `update`. -/
def update (DFTLength : ℕ) (damping_factor : ℝ) (d : SlidingDFT) (newX : ℝ) : SlidingDFT :=
  let oldX := d.x d.xIndex
  let rToN := damping_factor ^ DFTLength
  let S := fun k => twiddle DFTLength k * (damping_factor * d.S k - rToN * oldX + newX)
  { dataValid := d.dataValid || decide (DFTLength ≤ d.xIndex + 1)
    x := Function.update d.x d.xIndex newX
    xIndex := if DFTLength ≤ d.xIndex + 1 then 0 else d.xIndex + 1
    S := S
    dft := window DFTLength S }

/-- The object after some samples. -/
def sampled (DFTLength : ℕ) (damping_factor : ℝ) (samples : List ℝ) : SlidingDFT :=
  after (update DFTLength damping_factor) construct samples

/-- The sample that came `j` samples ago. -/
def past (samples : List ℝ) (j : ℕ) : ℝ := samples.reverse.getD j 0

/-- The sample with index `m` in the window, from the oldest on. -/
def sample (n : ℕ) (samples : List ℝ) (m : ℕ) : ℝ := past samples (n - 1 - m)

/-- The Hanning window. -/
def hanning (n m : ℕ) : ℝ := 1 / 2 - 1 / 2 * Real.cos (2 * Real.pi * m / n)

/-- The phase of the frequency `k` at the index `m`. -/
def phase (n k m : ℕ) : ℂ := exp (-(I * (2 * Real.pi * k * m / n)))

/-- The discrete Fourier transform of `n` values. -/
def transform (n : ℕ) (value : ℕ → ℂ) (k : ℕ) : ℂ := ∑ m ∈ range n, value m * phase n k m

variable {n k : ℕ} {r : ℝ} {samples : List ℝ}

theorem past_append (samples : List ℝ) (newX : ℝ) :
    past (samples ++ [newX]) = push newX (past samples) := by
  funext j
  rw [past, List.reverse_append]
  cases j with
  | zero => rfl
  | succ j => rfl

/-! ### Phases -/

theorem phase_length (hn : 0 < n) (m : ℕ) : phase n n m = 1 := by
  have hne : (n : ℂ) ≠ 0 := Nat.cast_ne_zero.2 hn.ne'
  have harg : -(I * (2 * Real.pi * n * m / n)) = ((-m : ℤ) : ℂ) * (2 * Real.pi * I) := by
    push_cast
    field_simp
  rw [phase, harg, exp_int_mul_two_pi_mul_I]

theorem phase_zero (n m : ℕ) : phase n 0 m = 1 := by
  rw [phase, Nat.cast_zero, mul_zero, zero_mul, zero_div, mul_zero, neg_zero, exp_zero]

theorem phase_add (n k l m : ℕ) : phase n (k + l) m = phase n k m * phase n l m := by
  rw [phase, phase, phase, ← exp_add]
  congr 1
  push_cast
  ring

theorem phase_ne_zero (n k m : ℕ) : phase n k m ≠ 0 := exp_ne_zero _

theorem twiddle_pow_sub (hn : 0 < n) (k : ℕ) {m : ℕ} (hm : m ≤ n) :
    twiddle n k ^ (n - m) = phase n k m := by
  have hne : (n : ℂ) ≠ 0 := Nat.cast_ne_zero.2 hn.ne'
  have harg : ((n - m : ℕ) : ℂ) * (I * (2 * Real.pi * k / n)) =
      (k : ℤ) * (2 * Real.pi * I) + -(I * (2 * Real.pi * k * m / n)) := by
    rw [Nat.cast_sub hm]
    push_cast
    field_simp
    ring
  rw [twiddle, ← exp_nat_mul, harg, exp_add, exp_int_mul_two_pi_mul_I, one_mul, phase]

theorem twiddle_pow_length (hn : 0 < n) (k : ℕ) : twiddle n k ^ n = 1 := by
  have hpow := twiddle_pow_sub hn k (Nat.zero_le n)
  rw [Nat.sub_zero] at hpow
  rw [hpow, phase, Nat.cast_zero, mul_zero, zero_div, mul_zero, neg_zero, exp_zero]

/-- The two neighbours of a frequency. -/
theorem phase_inv_add (n m : ℕ) :
    (phase n 1 m)⁻¹ + phase n 1 m = 2 * Real.cos (2 * Real.pi * m / n) := by
  have harg : (2 * Real.pi * (1 : ℕ) * m / n : ℂ) = ((2 * Real.pi * m / n : ℝ) : ℂ) := by
    push_cast
    ring
  rw [phase, harg, ← exp_neg, neg_neg, ofReal_cos, two_cos, mul_comm I, ← neg_mul]

theorem phase_pred (hn : 0 < n) (m : ℕ) : phase n (n - 1) m = (phase n 1 m)⁻¹ := by
  refine eq_inv_of_mul_eq_one_left ?_
  rw [← phase_add, Nat.sub_add_cancel hn]
  exact phase_length hn m

/-- What the window does at a frequency: its two neighbours are those of the frequency, in a
circle. -/
theorem window_phase (hn : 2 ≤ n) (hk : k < n) (m : ℕ) (S : ℂ) :
    window n (fun k => S * phase n k m) k = hanning n m * S * phase n k m := by
  have hpos : 0 < n := Nat.lt_of_lt_of_le Nat.zero_lt_two hn
  have hcos := phase_inv_add n m
  have hne := phase_ne_zero n 1 m
  have hhanning : (hanning n m : ℂ) = 1 / 2 - 1 / 4 * ((phase n 1 m)⁻¹ + phase n 1 m) := by
    rw [hcos, hanning]
    push_cast
    ring
  rw [hhanning, window]
  split_ifs with hzero hlast
  · rw [hzero, phase_zero, phase_pred hpos]
    ring
  · obtain ⟨j, rfl⟩ := Nat.exists_eq_add_one_of_ne_zero hzero
    rw [Nat.add_sub_cancel, phase_add n (j + 1) 1, phase_add n j 1]
    field_simp
  · have hend : k = n - 2 + 1 := by omega
    have hfirst : phase n 0 m = phase n k m * phase n 1 m := by
      rw [phase_zero, ← phase_add, show k + 1 = n by omega, phase_length hpos]
    have hk' : n - 1 = k := by omega
    rw [hk', hfirst]
    have hprev : phase n (n - 2) m = phase n k m * (phase n 1 m)⁻¹ := by
      rw [eq_mul_inv_iff_mul_eq₀ hne, ← phase_add, ← hend]
    rw [hprev]
    ring

/-- **The window in the frequency domain** is the window on the values. -/
theorem window_transform (hn : 2 ≤ n) (hk : k < n) (value : ℕ → ℂ) :
    window n (transform n value) k = transform n (fun m => hanning n m * value m) k := by
  have hterms : window n (transform n value) k =
      ∑ m ∈ range n, window n (fun k => value m * phase n k m) k := by
    unfold window transform
    split_ifs <;> simp only [mul_sum, ← sum_add_distrib, ← sum_sub_distrib]
  rw [hterms]
  exact sum_congr rfl fun m _ => window_phase hn hk m (value m)

/-! ### The spectrum of the last samples -/

/-- What the fields hold when some samples have come. -/
structure Spectrum (n : ℕ) (r : ℝ) (samples : List ℝ) (d : SlidingDFT) : Prop where
  x : Holds n samples.length d.x (past samples)
  xIndex : d.xIndex = samples.length % n
  S : ∀ k, d.S k =
    twiddle n k * windowSum (r * twiddle n k) n fun j => (past samples j : ℂ)
  dataValid : d.dataValid = true ↔ n ≤ samples.length

theorem spectrum_construct (hn : 0 < n) (r : ℝ) : Spectrum n r [] construct where
  x := fun _ _ => rfl
  xIndex := (Nat.zero_mod n).symm
  S := fun k => by
    have hsum : windowSum (r * twiddle n k) n (fun j => (past [] j : ℂ)) = 0 :=
      sum_eq_zero fun j _ => by
        change _ * ((0 : ℝ) : ℂ) = 0
        rw [ofReal_zero, mul_zero]
    rw [hsum, mul_zero]
    rfl
  dataValid := iff_of_false Bool.false_ne_true (Nat.not_le.2 hn)

/-- **One sample** keeps the spectrum. -/
theorem Spectrum.update {d : SlidingDFT} (h : Spectrum n r samples d) (hn : 0 < n) (newX : ℝ) :
    Spectrum n r (samples ++ [newX]) (d.update n r newX) where
  x := by
    rw [past_append, List.length_append, SlidingDFT.update, h.xIndex]
    exact h.x.write hn newX
  xIndex := by
    have hlt := Nat.mod_lt samples.length hn
    have hmod : (samples.length + 1) % n = (samples.length % n + 1) % n :=
      (Nat.mod_add_mod _ _ _).symm
    rw [List.length_append, List.length_singleton, hmod, SlidingDFT.update, h.xIndex]
    dsimp only
    split_ifs with hwrap
    · rw [show samples.length % n + 1 = n by omega, Nat.mod_self]
    · rw [Nat.mod_eq_of_lt (Nat.not_le.1 hwrap)]
  S := fun k => by
    have hpast : (fun j => (past (samples ++ [newX]) j : ℂ)) =
        push (newX : ℂ) fun j => (past samples j : ℂ) := by
      rw [past_append]
      funext j
      cases j <;> rfl
    have hold : d.x d.xIndex = past samples (n - 1) := h.xIndex ▸ h.x.oldest hn
    rw [hpast, windowSum_push _ hn, mul_pow, twiddle_pow_length hn, SlidingDFT.update]
    dsimp only
    rw [hold, h.S k]
    push_cast
    ring
  dataValid := by
    have hlt := Nat.mod_lt samples.length hn
    rw [SlidingDFT.update, Bool.or_eq_true, decide_eq_true_eq, h.dataValid, h.xIndex,
      List.length_append, List.length_singleton]
    constructor
    · rintro (hfull | hwrap)
      · exact Nat.le_succ_of_le hfull
      · exact Nat.le_trans hwrap (Nat.succ_le_succ (Nat.mod_le _ _))
    · intro hfull
      rcases Nat.lt_or_ge samples.length n with hbefore | hbefore
      · rw [Nat.mod_eq_of_lt hbefore]
        exact Or.inr hfull
      · exact Or.inl hbefore

theorem spectrum_run (hn : 0 < n) (r : ℝ) (samples : List ℝ) :
    Spectrum n r samples (sampled n r samples) := by
  induction samples using List.reverseRecOn with
  | nil => exact spectrum_construct hn r
  | append_singleton samples newX ih =>
    rw [sampled, Run.after_append]
    exact ih.update hn newX

/-- What is kept for a frequency is the transform of the damped samples. -/
theorem Spectrum.S_eq_transform {d : SlidingDFT} (h : Spectrum n r samples d) (hn : 0 < n) (k : ℕ) :
    d.S k = transform n (fun m => r ^ (n - 1 - m) * sample n samples m) k := by
  have hreflect := sum_range_reflect
    (fun j => (r : ℂ) ^ j * past samples j * twiddle n k ^ (j + 1)) n
  rw [h.S k, windowSum, mul_sum, transform]
  refine Eq.trans (sum_congr rfl fun j _ => ?_) (hreflect.symm.trans (sum_congr rfl fun m hm => ?_))
  · rw [mul_pow, pow_succ]
    ring
  · have hm' := mem_range.1 hm
    rw [show n - 1 - m + 1 = n - m by omega, twiddle_pow_sub hn k hm'.le, sample]

/-- **The spectrum of the last samples**: after any samples, it is the transform of the last ones,
each multiplied by the window and by a power of the damping factor, and it is valid when there have
been enough of them. -/
theorem dft_run (n : ℕ) (hn : 2 ≤ n) (r : ℝ) (samples : List ℝ) (newX : ℝ) :
    (∀ k < n, (sampled n r (samples ++ [newX])).dft k = transform n
      (fun m => hanning n m * (r ^ (n - 1 - m) * sample n (samples ++ [newX]) m)) k) ∧
      ((sampled n r (samples ++ [newX])).dataValid = true ↔ n ≤ (samples ++ [newX]).length) := by
  have hpos : 0 < n := Nat.lt_of_lt_of_le Nat.zero_lt_two hn
  have hd : Spectrum n r (samples ++ [newX]) (sampled n r (samples ++ [newX])) :=
    spectrum_run hpos r _
  refine ⟨fun k hk => ?_, hd.dataValid⟩
  have hS : (sampled n r (samples ++ [newX])).S =
      transform n fun m => r ^ (n - 1 - m) * sample n (samples ++ [newX]) m :=
    funext (hd.S_eq_transform hpos)
  have hdft : (sampled n r (samples ++ [newX])).dft =
      window n (sampled n r (samples ++ [newX])).S := by
    have hlast : sampled n r (samples ++ [newX]) = (sampled n r samples).update n r newX :=
      Run.after_append _
    rw [hlast]
    rfl
  rw [hdft, hS]
  exact window_transform hn hk _

/-- Two samples of the transform of the vision data. -/
theorem dft_run_thirty :
    (∀ k < 30, (sampled 30 1 ([1] ++ [0])).dft k = transform 30
      (fun m => hanning 30 m * (1 ^ (30 - 1 - m) * sample 30 ([1] ++ [0]) m)) k) ∧
      ((sampled 30 1 ([1] ++ [0])).dataValid = true ↔ 30 ≤ ([1] ++ [0] : List ℝ).length) := by
  have hrun := dft_run 30 (by decide) 1 [1] 0
  rwa [ofReal_one] at hrun

end SlidingDFT

end

end Aimbots.Filters
