import Mathlib.Data.Fintype.Basic
import Mathlib.Data.List.FinRange

/-!
# Sets of indices as words

A word stands for the set of the indices of its bits.  `mem_or`, `mem_diff`, `mem_insert` and
`mem_erase` say what the operations on words are on sets; `and_eq_zero_iff` and `and_eq_left_iff`
are the tests for disjoint sets and for a subset, and `toFinset` is the set itself.  `forEach` is
the loop over the indices of a word that the body of the loop may change: `forEach_induct` is its
rule.
-/

namespace Aimbots.Bitmap

variable {w i j : ℕ} {a b : BitVec w}

/-- The word with one bit. -/
def oneHot (w i : ℕ) : BitVec w := 1#w <<< i

/-- The bit is set. -/
def Mem (i : ℕ) (b : BitVec w) : Prop := b.getLsbD i = true

instance : Decidable (Mem i b) := inferInstanceAs (Decidable (_ = true))

theorem Mem.lt (h : Mem i b) : i < w := BitVec.lt_of_getLsbD h

theorem not_mem_zero : ¬ Mem i (0 : BitVec w) := by
  rw [Mem, BitVec.ofNat_eq_ofNat, BitVec.getLsbD_zero]
  exact Bool.false_ne_true

theorem mem_oneHot (hi : i < w) : Mem j (oneHot w i) ↔ j = i := by
  rw [Mem, oneHot, ← BitVec.twoPow_eq, BitVec.getLsbD_twoPow, Bool.and_eq_true, decide_eq_true_eq,
    decide_eq_true_eq]
  exact ⟨fun h => h.2.symm, fun h => ⟨hi, h.symm⟩⟩

theorem mem_or : Mem i (a ||| b) ↔ Mem i a ∨ Mem i b := by
  rw [Mem, BitVec.getLsbD_or, Bool.or_eq_true, Mem, Mem]

theorem mem_and : Mem i (a &&& b) ↔ Mem i a ∧ Mem i b := by
  rw [Mem, BitVec.getLsbD_and, Bool.and_eq_true, Mem, Mem]

theorem mem_diff : Mem i (a &&& ~~~b) ↔ Mem i a ∧ ¬ Mem i b := by
  rw [mem_and, Mem, Mem, Mem, BitVec.getLsbD_not, Bool.and_eq_true, Bool.not_eq_true',
    decide_eq_true_eq, Bool.not_eq_true]
  exact ⟨fun h => ⟨h.1, h.2.2⟩, fun h => ⟨h.1, BitVec.lt_of_getLsbD h.1, h.2⟩⟩

theorem mem_insert (hi : i < w) : Mem j (a ||| oneHot w i) ↔ j = i ∨ Mem j a := by
  rw [mem_or, mem_oneHot hi, or_comm]

theorem mem_erase (hi : i < w) : Mem j (a &&& ~~~oneHot w i) ↔ j ≠ i ∧ Mem j a := by
  rw [mem_diff, mem_oneHot hi, and_comm]

theorem ext_mem (h : ∀ i, Mem i a ↔ Mem i b) : a = b := by
  refine BitVec.eq_of_getLsbD_eq fun i _ => ?_
  rw [Bool.eq_iff_iff]
  exact h i

theorem eq_zero_iff : a = 0 ↔ ∀ i, ¬ Mem i a := by
  constructor
  · rintro rfl i
    exact not_mem_zero
  · intro h
    exact ext_mem fun i => iff_of_false (h i) not_mem_zero

/-- **Disjoint sets**. -/
theorem and_eq_zero_iff : a &&& b = 0 ↔ ∀ i, Mem i a → ¬ Mem i b := by
  rw [eq_zero_iff]
  refine forall_congr' fun i => ?_
  rw [mem_and, not_and]

/-- **A subset**. -/
theorem and_eq_left_iff : a &&& b = a ↔ ∀ i, Mem i a → Mem i b := by
  constructor
  · intro h i hi
    rw [← h] at hi
    exact (mem_and.1 hi).2
  · intro h
    refine ext_mem fun i => ?_
    rw [mem_and]
    exact ⟨And.left, fun hi => ⟨hi, h i hi⟩⟩

/-- The test of a bit with the word that has this bit only. -/
theorem and_oneHot_ne_zero_iff (hi : i < w) : a &&& oneHot w i ≠ 0 ↔ Mem i a := by
  rw [Ne, and_eq_zero_iff]
  constructor
  · intro h
    by_contra hnot
    exact h fun j hj hjhot => hnot ((mem_oneHot hi).1 hjhot ▸ hj)
  · exact fun hmem h => h i hmem ((mem_oneHot hi).2 rfl)

theorem and_comm_eq_zero (h : a &&& b = 0) : b &&& a = 0 := by
  rw [BitVec.and_comm]
  exact h

/-! ### Words as sets -/

/-- The set of the indices below `n`. -/
def toFinset (n : ℕ) (b : BitVec w) : Finset (Fin n) := Finset.univ.filter fun i => Mem i.val b

@[simp] theorem mem_toFinset {n : ℕ} {i : Fin n} : i ∈ toFinset n b ↔ Mem i.val b := by
  rw [toFinset, Finset.mem_filter, and_iff_right (Finset.mem_univ i)]

theorem toFinset_subset_iff : toFinset w a ⊆ toFinset w b ↔ a &&& b = a := by
  rw [and_eq_left_iff]
  constructor
  · intro h i hi
    have hin : (⟨i, hi.lt⟩ : Fin w) ∈ toFinset w a := mem_toFinset.2 hi
    exact mem_toFinset.1 (h hin)
  · exact fun h i hi => mem_toFinset.2 (h i (mem_toFinset.1 hi))

theorem toFinset_eq_empty_iff : toFinset w a = ∅ ↔ a = 0 := by
  rw [eq_zero_iff, Finset.eq_empty_iff_forall_notMem]
  constructor
  · exact fun h i hi => h ⟨i, hi.lt⟩ (mem_toFinset.2 hi)
  · exact fun h i hi => h i (mem_toFinset.1 hi)

theorem toFinset_inter_eq_empty_iff : toFinset w a ∩ toFinset w b = ∅ ↔ a &&& b = 0 := by
  have hinter : toFinset w a ∩ toFinset w b = toFinset w (a &&& b) := by
    ext i
    rw [Finset.mem_inter, mem_toFinset, mem_toFinset, mem_toFinset, mem_and]
  rw [hinter, toFinset_eq_empty_iff]

/-! ### Loops -/

section Loops

variable {S : Type*} {n : ℕ} {bitmap : S → BitVec w} {body : S → Fin n → S} {s : S}

/-- The loop over the indices below `n` that are set when the loop gets to them. -/
def forEach (bitmap : S → BitVec w) (body : S → Fin n → S) (s : S) : S :=
  (List.finRange n).foldl (fun s i => if bitmap s &&& oneHot w i.val ≠ 0 then body s i else s) s

/-- **The rule of the loop**: `P` is about the state and the indices that are still to come. -/
theorem forEach_induct (bitmap : S → BitVec w) (body : S → Fin n → S) (s : S) (hn : n ≤ w)
    {P : List (Fin n) → S → Prop}
    (hskip : ∀ i rest s, (i :: rest).Nodup → P (i :: rest) s → ¬ Mem i.val (bitmap s) → P rest s)
    (hbody : ∀ i rest s, (i :: rest).Nodup → P (i :: rest) s → Mem i.val (bitmap s) →
      P rest (body s i))
    (hs : P (List.finRange n) s) : P [] (forEach bitmap body s) := by
  have hloop : ∀ rest : List (Fin n), rest.Nodup → ∀ s, P rest s →
      P [] (rest.foldl (fun s i => if bitmap s &&& oneHot w i.val ≠ 0 then body s i else s) s) := by
    intro rest
    induction rest with
    | nil => exact fun _ _ hs => hs
    | cons i rest ih =>
      intro hnodup s hs
      have hi : i.val < w := Nat.lt_of_lt_of_le i.isLt hn
      rw [List.foldl_cons]
      by_cases hmem : Mem i.val (bitmap s)
      · rw [if_pos ((and_oneHot_ne_zero_iff hi).2 hmem)]
        exact ih (List.nodup_cons.1 hnodup).2 _ (hbody i rest s hnodup hs hmem)
      · rw [if_neg fun h => hmem ((and_oneHot_ne_zero_iff hi).1 h)]
        exact ih (List.nodup_cons.1 hnodup).2 _ (hskip i rest s hnodup hs hmem)
  exact hloop _ (List.nodup_finRange n) s hs

/-- What every step keeps. -/
theorem forEach_inv (hn : n ≤ w) {P : S → Prop}
    (hbody : ∀ i s, P s → Mem i.val (bitmap s) → P (body s i)) (hs : P s) :
    P (forEach bitmap body s) :=
  forEach_induct bitmap body s hn (P := fun _ s => P s) (fun _ _ _ _ hs _ => hs)
    (fun i _ s _ hs hmem => hbody i s hs hmem) hs

end Loops

end Aimbots.Bitmap
