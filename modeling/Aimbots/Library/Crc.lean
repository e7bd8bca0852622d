import Mathlib.Data.List.GetD
import Mathlib.Tactic.Common

/-!
# Cyclic redundancy checks

A reflected check of `w` bits, with the polynomial `poly`, over a stream of bits: the register moves
down by one place for each bit, and takes the polynomial when a one falls out.

* `run_xor`: the register is linear in what it starts with and in the stream.
* `run_bits`: several bits at once, from a table of what they leave in a clear register.
* `run_append_bits_eq_zero_iff`: a stream that ends in its own check leaves the register clear, and
  no other end does.
* `run_xor_eq_zero_iff`: whether an altered stream passes depends on the altered bits alone.
* `run_burst_ne_zero`, `run_odd_ne_zero`, `run_pair_ne_zero`: what alterations never pass.
-/

namespace Aimbots.Crc

variable {w : ℕ} (poly : BitVec w)

/-- One bit of the stream enters the register. -/
def step (c : BitVec w) (b : Bool) : BitVec w :=
  (c >>> 1) ^^^ (if (c.getLsbD 0 ^^ b) then poly else 0#w)

/-- The register after a stream. -/
def run (c : BitVec w) (l : List Bool) : BitVec w := l.foldl (step poly) c

/-- The first `n` bits of a word, the lowest one first. -/
def bits {v : ℕ} (n : ℕ) (t : BitVec v) : List Bool := (List.range n).map fun i => t.getLsbD i

variable {poly} {c d t : BitVec w} {b b' : Bool} {l l₁ l₂ m e : List Bool} {n : ℕ}

@[simp] theorem run_nil : run poly c [] = c := rfl

@[simp] theorem run_cons : run poly c (b :: l) = run poly (step poly c b) l := rfl

theorem run_append : run poly c (l₁ ++ l₂) = run poly (run poly c l₁) l₂ := List.foldl_append

@[simp] theorem length_bits {v : ℕ} {t : BitVec v} : (bits n t).length = n := by simp [bits]

theorem bits_succ {v : ℕ} {t : BitVec v} : bits (n + 1) t = t.getLsbD 0 :: bits n (t >>> 1) := by
  simp only [bits, List.range_succ_eq_map, List.map_cons, List.map_map]
  refine congrArg (_ :: ·) (List.map_congr_left fun i _ => ?_)
  rw [Function.comp_apply, BitVec.getLsbD_ushiftRight, Nat.succ_eq_one_add]

theorem bits_add {v k : ℕ} {t : BitVec v} : bits (n + k) t = bits n t ++ bits k (t >>> n) := by
  simp only [bits, List.range_add, List.map_append, List.map_map]
  refine congrArg (_ ++ ·) (List.map_congr_left fun i _ => ?_)
  rw [Function.comp_apply, BitVec.getLsbD_ushiftRight]

theorem bits_injective (h : bits w c = bits w d) : c = d := by
  refine BitVec.eq_of_getLsbD_eq fun i hi => ?_
  exact List.map_inj_left.1 h i (List.mem_range.2 hi)

/-- Up to `w` bits and zeros behind them are the bits of a word. -/
theorem exists_bits_eq (h : l.length ≤ w) :
    ∃ t : BitVec w, bits w t = l ++ List.replicate (w - l.length) false := by
  refine ⟨(BitVec.ofBoolListLE l).setWidth w, List.ext_getElem (by simp; omega) fun i h₁ _ => ?_⟩
  rw [length_bits] at h₁
  simp only [bits, List.getElem_map, List.getElem_range, BitVec.getLsbD_setWidth, h₁, decide_true,
    Bool.true_and, BitVec.getLsbD_ofBoolListLE, List.getElem_append, List.getElem_replicate]
  split_ifs with hi
  · rw [List.getD_eq_getElem _ _ hi]
  · exact List.getD_eq_default _ _ (Nat.le_of_not_lt hi)

/-! ### Linearity -/

theorem step_xor (poly c d : BitVec w) (b b' : Bool) :
    step poly (c ^^^ d) (b ^^ b') = step poly c b ^^^ step poly d b' := by
  have hbit : ((c ^^^ d).getLsbD 0 ^^ (b ^^ b')) = ((c.getLsbD 0 ^^ b) ^^ (d.getLsbD 0 ^^ b')) := by
    rw [BitVec.getLsbD_xor]
    cases c.getLsbD 0 <;> cases d.getLsbD 0 <;> cases b <;> cases b' <;> rfl
  simp only [step, hbit, BitVec.ushiftRight_xor_distrib]
  cases c.getLsbD 0 ^^ b <;> cases d.getLsbD 0 ^^ b'
  · simp
  · simp [BitVec.xor_assoc]
  · simp only [Bool.xor_false, if_true, Bool.false_eq_true, if_false]
    ac_rfl
  · -- the polynomial is taken twice, and cancels
    have hcancel : poly ^^^ (d >>> 1 ^^^ poly) = d >>> 1 := by
      rw [BitVec.xor_comm, BitVec.xor_assoc, BitVec.xor_self, BitVec.xor_zero]
    have htwice : c >>> 1 ^^^ poly ^^^ (d >>> 1 ^^^ poly) = c >>> 1 ^^^ d >>> 1 := by
      rw [BitVec.xor_assoc, hcancel]
    simp [htwice]

/-- **The register is linear** in what it starts with and in the stream. -/
theorem run_xor (poly c d : BitVec w) (h : l.length = m.length) :
    run poly (c ^^^ d) (List.zipWith xor l m) = run poly c l ^^^ run poly d m := by
  induction l generalizing c d m with
  | nil =>
    obtain rfl := List.length_eq_zero_iff.1 h.symm
    rfl
  | cons b l ih =>
    obtain ⟨b', m, rfl⟩ := List.exists_cons_of_length_eq_add_one h.symm
    rw [List.zipWith_cons_cons, run_cons, run_cons, run_cons, step_xor]
    exact ih _ _ (Nat.succ.inj h)

theorem zipWith_xor_false (h : n = l.length) : List.zipWith xor l (List.replicate n false) = l := by
  subst h
  induction l with
  | nil => rfl
  | cons b l ih =>
    rw [List.length_cons, List.replicate_succ, List.zipWith_cons_cons, ih, Bool.xor_false]

theorem zipWith_xor_cancel (h : l.length = m.length) :
    List.zipWith xor l (List.zipWith xor l m) = m := by
  induction l generalizing m with
  | nil => exact (List.length_eq_zero_iff.1 h.symm).symm
  | cons b l ih =>
    obtain ⟨b', m, rfl⟩ := List.exists_cons_of_length_eq_add_one h.symm
    rw [List.zipWith_cons_cons, List.zipWith_cons_cons, ih (Nat.succ.inj h), ← Bool.xor_assoc,
      Bool.xor_self, Bool.false_xor]

theorem zipWith_xor_bits {v : ℕ} {t u : BitVec v} :
    List.zipWith xor (bits n t) (bits n u) = bits n (t ^^^ u) := by
  simp only [bits, List.zipWith_map, List.zipWith_self, BitVec.getLsbD_xor]

theorem run_zero_replicate : run poly 0#w (List.replicate n false) = 0#w := by
  induction n with
  | zero => rfl
  | succ n ih =>
    rw [List.replicate_succ, run_cons]
    have hstep : step poly 0#w false = 0#w := by simp [step]
    rw [hstep, ih]

/-- A start value and a stream contribute apart from each other. -/
theorem run_eq_xor :
    run poly c l = run poly c (List.replicate l.length false) ^^^ run poly 0#w l := by
  have hsame : List.zipWith xor (List.replicate l.length false) l = l := by
    rw [List.zipWith_comm_of_comm Bool.xor_comm, zipWith_xor_false rfl]
  have h := run_xor poly c 0#w (List.length_replicate (n := l.length) (a := false))
  rwa [hsame, BitVec.xor_zero] at h

/-! ### Several bits at once -/

/-- A register that meets its own bits only moves down. -/
theorem run_bits_self : run poly c (bits n c) = c >>> n := by
  induction n generalizing c with
  | zero => simp [bits]
  | succ n ih =>
    have hstep : step poly c (c.getLsbD 0) = c >>> 1 := by simp [step]
    rw [bits_succ, run_cons, hstep, ih, ← BitVec.shiftRight_add, Nat.add_comm]

/-- **Several bits at once**: the register moves down by as many places, and takes what these bits,
against its own lowest ones, leave in a clear register. -/
theorem run_bits {v : ℕ} {u : BitVec v} :
    run poly c (bits n u) =
      (c >>> n) ^^^ run poly 0#w (List.zipWith xor (bits n c) (bits n u)) := by
  have h :=
    run_xor poly c 0#w (l := bits n c) (m := List.zipWith xor (bits n c) (bits n u)) (by simp)
  rwa [BitVec.xor_zero, zipWith_xor_cancel (by simp), run_bits_self] at h

/-! ### A stream with its check -/

variable (htop : poly.getLsbD (w - 1) = true)
include htop

/-- With the top bit in the polynomial, a register that is not clear does not become so without
ones in the stream. -/
theorem step_false_eq_zero_iff : step poly c false = 0#w ↔ c = 0#w := by
  refine ⟨fun h => ?_, fun h => by simp [h, step]⟩
  have hw : 0 < w := by
    by_contra hw
    obtain rfl : w = 0 := by omega
    simp at htop
  have hlow : c.getLsbD 0 = false := by
    have hbit := congrArg (BitVec.getLsbD · (w - 1)) h
    by_contra hlow
    rw [Bool.not_eq_false] at hlow
    simp [step, hlow, htop, show 1 + (w - 1) = w by omega] at hbit
  refine BitVec.eq_of_getLsbD_eq fun i hi => ?_
  rcases i with _ | i
  · simpa using hlow
  · have hbit := congrArg (BitVec.getLsbD · i) h
    simpa [step, hlow, Nat.add_comm 1] using hbit

theorem run_replicate_eq_zero_iff : run poly c (List.replicate n false) = 0#w ↔ c = 0#w := by
  induction n generalizing c with
  | zero => rfl
  | succ n ih => rw [List.replicate_succ, run_cons, ih, step_false_eq_zero_iff htop]

theorem run_zero_bits_eq_zero_iff : run poly 0#w (bits w t) = 0#w ↔ t = 0#w := by
  have hself : run poly t (bits w t) = 0#w := by
    rw [run_bits_self]
    exact BitVec.ushiftRight_eq_zero (Nat.le_refl w)
  rw [run_eq_xor, length_bits] at hself
  have hiff := run_replicate_eq_zero_iff (c := t) (n := w) htop
  rw [← hiff]
  constructor
  · intro h
    rwa [h, BitVec.xor_zero] at hself
  · intro h
    rwa [h, BitVec.zero_xor] at hself

/-- **A stream that ends in its own check** leaves the register clear, and no other end does. -/
theorem run_append_bits_eq_zero_iff : run poly c (l ++ bits w t) = 0#w ↔ run poly c l = t := by
  rw [run_append]
  generalize run poly c l = s
  have hxor : run poly s (bits w t) = run poly 0#w (bits w (s ^^^ t)) := by
    rw [run_bits, zipWith_xor_bits, BitVec.ushiftRight_eq_zero (Nat.le_refl w), BitVec.zero_xor]
  rw [hxor, run_zero_bits_eq_zero_iff htop, BitVec.xor_eq_zero_iff]

/-! ### Alterations -/

omit htop in
/-- **Whether an altered stream passes** depends on the altered bits alone. -/
theorem run_xor_eq_zero_iff (hlen : l.length = e.length) (hl : run poly c l = 0#w) :
    run poly c (List.zipWith xor l e) = 0#w ↔ run poly 0#w e = 0#w := by
  have h := run_xor poly c 0#w hlen
  rw [BitVec.xor_zero, hl, BitVec.zero_xor] at h
  rw [h]

/-- **A burst** of altered bits no longer than the check never passes. -/
theorem run_burst_ne_zero (hlen : e.length ≤ w) (htrue : true ∈ e) (j k : ℕ) :
    run poly 0#w (List.replicate j false ++ e ++ List.replicate k false) ≠ 0#w := by
  rw [run_append, run_append, run_zero_replicate, ne_eq, run_replicate_eq_zero_iff htop]
  obtain ⟨t, ht⟩ := exists_bits_eq hlen
  have hpad : run poly 0#w (bits w t) = 0#w ↔ run poly 0#w e = 0#w := by
    rw [ht, run_append, run_replicate_eq_zero_iff htop]
  rw [← hpad, run_zero_bits_eq_zero_iff htop]
  rintro rfl
  have hmem : true ∈ bits w 0#w := ht ▸ List.mem_append_left _ htrue
  simp [bits] at hmem

omit htop

/-! ### Parity -/

/-- Whether a list has an odd number of ones. -/
def parity (l : List Bool) : Bool := l.foldr xor false

@[simp] theorem parity_nil : parity [] = false := rfl

@[simp] theorem parity_cons : parity (b :: l) = (b ^^ parity l) := rfl

theorem parity_append : parity (l ++ m) = (parity l ^^ parity m) := by
  induction l with
  | nil => simp
  | cons b l ih => rw [List.cons_append, parity_cons, ih, parity_cons, Bool.xor_assoc]

theorem parity_eq_decide : parity l = decide (l.count true % 2 = 1) := by
  induction l with
  | nil => rfl
  | cons b l ih =>
    rw [parity_cons, ih]
    cases b
    · simp
    · rw [List.count_cons_self, Bool.true_xor, ← decide_not]
      exact decide_eq_decide.2 (by omega)

theorem parity_zipWith (h : l.length = m.length) :
    parity (List.zipWith xor l m) = (parity l ^^ parity m) := by
  induction l generalizing m with
  | nil =>
    obtain rfl := List.length_eq_zero_iff.1 h.symm
    rfl
  | cons b l ih =>
    obtain ⟨b', m, rfl⟩ := List.exists_cons_of_length_eq_add_one h.symm
    rw [List.zipWith_cons_cons, parity_cons, ih (Nat.succ.inj h), parity_cons, parity_cons]
    cases b <;> cases b' <;> cases parity l <;> cases parity m <;> rfl

/-- Moving down loses the lowest bit. -/
theorem parity_bits_shift : parity (bits w (c >>> 1)) = (parity (bits w c) ^^ c.getLsbD 0) := by
  have hcons : parity (bits (w + 1) c) = (c.getLsbD 0 ^^ parity (bits w (c >>> 1))) := by
    rw [bits_succ, parity_cons]
  have hconcat : parity (bits (w + 1) c) = parity (bits w c) := by
    rw [bits_add, parity_append]
    simp [bits]
  rw [← hconcat, hcons, Bool.xor_comm, ← Bool.xor_assoc, Bool.xor_self, Bool.false_xor]

/-- **The parity of the register** follows that of the stream, if the polynomial's is odd. -/
theorem parity_step (hodd : parity (bits w poly) = true) :
    parity (bits w (step poly c b)) = (parity (bits w c) ^^ b) := by
  rw [step, ← zipWith_xor_bits, parity_zipWith (by simp), parity_bits_shift]
  have hzero : parity (bits w 0#w) = false := by
    rw [parity_eq_decide, List.count_eq_zero.2 (by simp [bits])]
    rfl
  cases c.getLsbD 0 <;> cases b <;> simp [hodd, hzero]

theorem parity_run (hodd : parity (bits w poly) = true) :
    parity (bits w (run poly c l)) = (parity (bits w c) ^^ parity l) := by
  induction l generalizing c with
  | nil => simp
  | cons b l ih => rw [run_cons, ih, parity_step hodd, parity_cons, Bool.xor_assoc]

/-- **An odd number** of altered bits never passes. -/
theorem run_odd_ne_zero (hodd : parity (bits w poly) = true) (he : e.count true % 2 = 1) :
    run poly 0#w e ≠ 0#w := by
  intro h
  have hrun := parity_run (c := 0#w) (l := e) hodd
  rw [h, parity_eq_decide (l := e), decide_eq_true he, Bool.xor_true] at hrun
  cases hp : parity (bits w 0#w) <;> rw [hp] at hrun <;> cases hrun

/-! ### Two altered bits -/

/-- Whether the polynomial comes back to itself in the next `n` steps of a register. -/
def neverReturns (poly : BitVec w) : ℕ → BitVec w → Bool
  | 0, _ => true
  | n + 1, c => step poly c false != poly && neverReturns poly n (step poly c false)

theorem run_ne_of_neverReturns {n : ℕ} (h : neverReturns poly n c = true) {k : ℕ} (hk : k < n) :
    run poly c (List.replicate (k + 1) false) ≠ poly := by
  induction n generalizing c k with
  | zero => omega
  | succ n ih =>
    rw [neverReturns, Bool.and_eq_true, bne_iff_ne] at h
    rcases k with _ | k
    · exact h.1
    · rw [List.replicate_succ, run_cons]
      exact ih h.2 (by omega)

theorem exists_of_count_pos (h : 0 < e.count true) :
    ∃ j e', e = List.replicate j false ++ true :: e' ∧
    e'.count true + 1 = e.count true := by
  induction e with
  | nil => simp at h
  | cons b e ih =>
    cases b
    · obtain ⟨j, e', rfl, hcount⟩ := ih (by simpa using h)
      exact ⟨j + 1, e', rfl, by simpa using hcount⟩
    · exact ⟨0, e, rfl, by simp⟩

theorem eq_replicate_of_count_eq_zero (h : e.count true = 0) :
    e = List.replicate e.length false := by
  refine List.eq_replicate_of_mem fun b hb => ?_
  cases b
  · rfl
  · exact absurd hb (List.count_eq_zero.1 h)

/-- **Two altered bits** never pass as long as the polynomial does not come back within the length
of the stream. -/
theorem run_pair_ne_zero (htop : poly.getLsbD (w - 1) = true)
    (hreturn : neverReturns poly n poly = true) (hlen : e.length ≤ n + 1)
    (he : e.count true = 2) : run poly 0#w e ≠ 0#w := by
  obtain ⟨j, e₁, rfl, h₁⟩ := exists_of_count_pos (by omega : 0 < e.count true)
  obtain ⟨k, e₂, rfl, h₂⟩ := exists_of_count_pos (by omega : 0 < e₁.count true)
  have hzeros := eq_replicate_of_count_eq_zero (by omega : e₂.count true = 0)
  have hfirst : step poly 0#w true = poly := by simp [step]
  rw [run_append, run_zero_replicate, run_cons, hfirst, run_append, run_cons, hzeros, ne_eq,
    run_replicate_eq_zero_iff htop]
  -- the second altered bit clears the register only if the polynomial has come back before it
  generalize hd : run poly poly (List.replicate k false) = d
  intro hclear
  have hsplit : step poly d true = step poly d false ^^^ poly := by
    have h := step_xor poly d 0#w false true
    rwa [BitVec.xor_zero, Bool.false_xor, hfirst] at h
  have hback : run poly poly (List.replicate (k + 1) false) = poly := by
    rw [List.replicate_succ', run_append, hd, run_cons, run_nil]
    exact BitVec.xor_eq_zero_iff.1 (hsplit ▸ hclear)
  refine run_ne_of_neverReturns hreturn (k := k) ?_ hback
  simp only [List.length_append, List.length_cons, List.length_replicate] at hlen
  omega

/-- **One to three altered bits** never pass. -/
theorem run_ne_zero_of_count_le_three (htop : poly.getLsbD (w - 1) = true)
    (hodd : parity (bits w poly) = true) (hreturn : neverReturns poly n poly = true)
    (hlen : e.length ≤ n + 1) (hpos : 0 < e.count true) (hle : e.count true ≤ 3) :
    run poly 0#w e ≠ 0#w := by
  by_cases htwo : e.count true = 2
  · exact run_pair_ne_zero htop hreturn hlen htwo
  · exact run_odd_ne_zero hodd (by omega)

end Aimbots.Crc
