import Aimbots.Library.RoundRobin
import Mathlib.Algebra.GroupWithZero.Nat
import Mathlib.Data.List.Iterate
import Mathlib.Data.Nat.ModEq
import Mathlib.Logic.Nontrivial.Basic
import Mathlib.Tactic.Common

/-!
# `modm/container/deque_impl.hpp`

`BoundedDeque` over a buffer of `N` slots, as the history buffers use it: values are put before the
front, and in a full deque over the last one.  `get` finds the slot of an index by one comparison
and does not ask how many slots are in use, so an index from the size on reads what lies in the
buffer.

`get_pushes` says what every index reads after any number of values: the `k` newest are the first
`k` indices, and behind them the former contents move up.

A deque to which values are appended, and from which the front is removed, is a queue: `contents`
are its values from the front on (`IsQueue.append`, `IsQueue.removeFront`, `IsQueue.removeBack`).
-/

namespace Aimbots.Tap

/-- The data members of `BoundedDeque`. -/
structure BoundedDeque (α : Type*) (N : ℕ) where
  head : Fin N
  tail : Fin N
  size : ℕ
  buffer : Fin N → α

namespace BoundedDeque

variable {α : Type*} {N : ℕ}

/-- The slot before a slot, the last one before the first. -/
def previous (slot : Fin N) : Fin N :=
  ⟨if slot.val = 0 then N - 1 else slot.val - 1, by split_ifs <;> omega⟩

/-- The slot that `get` reads. -/
def slot (tail n : Fin N) : Fin N :=
  ⟨if tail.val + n.val > N - 1 then tail.val + n.val - N else tail.val + n.val,
    by split_ifs <;> omega⟩

/-- The constructor.  The buffer holds what the constructors of its elements leave. -/
def construct [NeZero N] (buffer : Fin N → α) : BoundedDeque α N where
  head := ⟨0, Nat.pos_of_neZero N⟩
  tail := ⟨if N = 1 then 0 else 1, by have := Nat.pos_of_neZero N; split_ifs <;> omega⟩
  size := 0
  buffer := buffer

/-- `isFull`. -/
def isFull (d : BoundedDeque α N) : Bool := d.size == N

/-- `clear`. -/
def clear [NeZero N] (d : BoundedDeque α N) : BoundedDeque α N := construct d.buffer

/-- `prependOverwrite`. -/
def prependOverwrite (d : BoundedDeque α N) (value : α) : BoundedDeque α N where
  head := if d.isFull then previous d.head else d.head
  tail := previous d.tail
  size := if d.isFull then d.size else d.size + 1
  buffer := Function.update d.buffer (previous d.tail) value

/-- `get`, and `operator[]`. -/
def get (d : BoundedDeque α N) (n : Fin N) : α := d.buffer (slot d.tail n)

/-! ### The slots of the indices -/

theorem slot_previous_zero (tail : Fin N) (h : 0 < N) :
    slot (previous tail) ⟨0, h⟩ = previous tail := by
  apply Fin.ext
  have hlt := (previous tail).isLt
  simp only [slot]
  split_ifs <;> omega

theorem slot_previous_succ (tail : Fin N) {i : ℕ} (h : i + 1 < N) :
    slot (previous tail) ⟨i + 1, h⟩ = slot tail ⟨i, by omega⟩ := by
  apply Fin.ext
  have hlt := tail.isLt
  simp only [slot, previous]
  split_ifs <;> omega

/-- The slot in front is in use only by the last index. -/
theorem slot_ne_previous (tail : Fin N) {i : ℕ} (h : i + 1 < N) :
    slot tail ⟨i, by omega⟩ ≠ previous tail := by
  intro heq
  have hval := congrArg Fin.val heq
  have hlt := tail.isLt
  simp only [slot, previous] at hval
  split_ifs at hval <;> omega

/-! ### Reading after writing -/

theorem get_prependOverwrite_zero (d : BoundedDeque α N) (value : α) (h : 0 < N) :
    (d.prependOverwrite value).get ⟨0, h⟩ = value := by
  unfold get prependOverwrite
  rw [slot_previous_zero]
  exact Function.update_self ..

theorem get_prependOverwrite_succ (d : BoundedDeque α N) (value : α) {i : ℕ} (h : i + 1 < N) :
    (d.prependOverwrite value).get ⟨i + 1, h⟩ = d.get ⟨i, by omega⟩ := by
  unfold get prependOverwrite
  rw [slot_previous_succ]
  exact Function.update_of_ne (slot_ne_previous d.tail h) ..

/-- The deque after the first `k` of some values. -/
def pushes (d : BoundedDeque α N) (values : ℕ → α) : ℕ → BoundedDeque α N
  | 0 => d
  | k + 1 => (d.pushes values k).prependOverwrite (values k)

/-- Values are put into a deque until it is full. -/
theorem size_pushes (d : BoundedDeque α N) (values : ℕ → α) (h : d.size ≤ N) (k : ℕ) :
    (d.pushes values k).size = min (d.size + k) N := by
  induction k with
  | zero => exact (Nat.min_eq_left h).symm
  | succ k ih =>
    have hstep : (d.pushes values (k + 1)).size =
        if (d.pushes values k).isFull then (d.pushes values k).size
        else (d.pushes values k).size + 1 := rfl
    rw [hstep, isFull, ih]
    by_cases hfull : N ≤ d.size + k
    · have hfull' : N ≤ d.size + (k + 1) := Nat.le_succ_of_le hfull
      rw [Nat.min_eq_right hfull, Nat.min_eq_right hfull', if_pos (beq_self_eq_true N)]
    · have hlt : d.size + k < N := Nat.lt_of_not_le hfull
      have hlt' : d.size + (k + 1) ≤ N := hlt
      rw [Nat.min_eq_left (Nat.le_of_lt hlt), Nat.min_eq_left hlt',
        beq_eq_false_iff_ne.2 (Nat.ne_of_lt hlt)]
      rfl

/-- **What an index reads**: the value put in that many values ago, or what the buffer held
before. -/
theorem get_pushes (d : BoundedDeque α N) (values : ℕ → α) (k : ℕ) (n : Fin N) :
    (d.pushes values k).get n =
      if n.val < k then values (k - 1 - n.val) else d.get ⟨n.val - k, by omega⟩ := by
  induction k generalizing n with
  | zero => rfl
  | succ k ih =>
    obtain ⟨n, hn⟩ := n
    cases n with
    | zero => rw [pushes, get_prependOverwrite_zero, if_pos (Nat.succ_pos k)]; rfl
    | succ i =>
      rw [pushes, get_prependOverwrite_succ, ih]
      simp only [Nat.add_lt_add_iff_right, Nat.add_sub_add_right]
      congr 2
      omega

/-- The values put into an empty deque that are in it still are the first indices. -/
theorem get_pushes_of_lt_size [NeZero N] (buffer : Fin N → α) (values : ℕ → α) {k : ℕ} {n : Fin N}
    (h : n.val < ((construct buffer).pushes values k).size) :
    ((construct buffer).pushes values k).get n = values (k - 1 - n.val) := by
  rw [size_pushes _ _ (Nat.zero_le N)] at h
  rw [get_pushes, if_pos (by simpa [construct] using (Nat.lt_min.1 h).1)]

/-- An index reads the value that was put in `j` values ago, whatever the values are, only if it is
`j`: no other index does, in use or not. -/
theorem get_pushes_eq_iff [NeZero N] [Nontrivial α] (buffer : Fin N → α) {k j : ℕ}
    (hj : j < min k N) (n : Fin N) :
    (∀ values, ((construct buffer).pushes values k).get n = values (k - 1 - j)) ↔ n.val = j := by
  obtain ⟨hjk, hjN⟩ := Nat.lt_min.1 hj
  constructor
  · intro h
    by_cases hn : n.val < k
    · -- values of which one only differs from the others
      obtain ⟨a, b, hab⟩ := exists_pair_ne α
      have hread := h (Function.update (fun _ => b) (k - 1 - j) a)
      rw [get_pushes, if_pos hn, Function.update_self] at hread
      by_contra hne
      rw [Function.update_of_ne (by omega)] at hread
      exact hab hread.symm
    · -- values that are not what the buffer held
      obtain ⟨b, hb⟩ := exists_ne ((construct buffer).get ⟨n.val - k, by omega⟩)
      have hread := h fun _ => b
      rw [get_pushes, if_neg hn] at hread
      exact absurd hread.symm hb
  · rintro rfl values
    refine get_pushes_of_lt_size buffer values ?_
    rw [size_pushes _ _ (Nat.zero_le N)]
    simpa [construct] using hj

/-! ### As a queue -/

/-- The slot after a slot, the first one after the last. -/
def next (slot : Fin N) : Fin N :=
  ⟨if slot.val ≥ N - 1 then 0 else slot.val + 1, by have := slot.isLt; split_ifs <;> omega⟩

/-- `isEmpty`. -/
def isEmpty (d : BoundedDeque α N) : Bool := d.size == 0

/-- `getFront`. -/
def getFront (d : BoundedDeque α N) : α := d.buffer d.tail

/-- `removeFront`, of a deque that is not empty. -/
def removeFront (d : BoundedDeque α N) : BoundedDeque α N :=
  { d with tail := next d.tail, size := d.size - 1 }

/-- `getBack`. -/
def getBack (d : BoundedDeque α N) : α := d.buffer d.head

/-- `removeBack`, of a deque that is not empty. -/
def removeBack (d : BoundedDeque α N) : BoundedDeque α N :=
  { d with head := previous d.head, size := d.size - 1 }

/-- `append`. -/
def append (d : BoundedDeque α N) (value : α) : BoundedDeque α N :=
  if d.isFull then d
  else
    { d with
      head := next d.head
      buffer := Function.update d.buffer (next d.head) value
      size := d.size + 1 }

/-- The values from the front on. -/
def contents (d : BoundedDeque α N) : List α := (List.iterate next d.tail d.size).map d.buffer

/-- The slots in use are those from the tail to the head. -/
structure IsQueue (d : BoundedDeque α N) : Prop where
  size_le : d.size ≤ N
  head : next d.head = next^[d.size] d.tail

theorem next_eq : (next : Fin N → Fin N) = RoundRobin.next := by
  funext slot
  apply Fin.ext
  have hlt := slot.isLt
  have hval : (RoundRobin.next slot : ℕ) = (slot + 1) % N := rfl
  have hnext : (next slot : ℕ) = if slot.val ≥ N - 1 then 0 else slot.val + 1 := rfl
  rw [hval, hnext]
  by_cases hlast : slot.val ≥ N - 1
  · rw [if_pos hlast, show slot.val + 1 = N by omega, Nat.mod_self]
  · rw [if_neg hlast, Nat.mod_eq_of_lt (by omega)]

/-- The slot after those of a deque that is not full is not one of them. -/
theorem iterate_next_notMem (tail : Fin N) {size : ℕ} (h : size < N) :
    next^[size] tail ∉ List.iterate next tail size := by
  rw [List.mem_iterate]
  rintro ⟨i, hi, heq⟩
  have hval := congrArg Fin.val heq
  rw [next_eq, RoundRobin.val_iterate_next, RoundRobin.val_iterate_next] at hval
  have hmod : i % N = size % N := Nat.ModEq.add_left_cancel' _ hval.symm
  rw [Nat.mod_eq_of_lt h, Nat.mod_eq_of_lt (hi.trans h)] at hmod
  omega

theorem length_contents (d : BoundedDeque α N) : d.contents.length = d.size := by
  rw [contents, List.length_map, List.length_iterate]

section Queue

variable {d : BoundedDeque α N}

theorem isQueue_construct [NeZero N] (buffer : Fin N → α) : (construct buffer).IsQueue where
  size_le := Nat.zero_le N
  head := by
    have hpos := Nat.pos_of_neZero N
    have hval : (if 0 ≥ N - 1 then 0 else 0 + 1) = if N = 1 then 0 else 1 := by
      split_ifs <;> omega
    exact Fin.ext hval

theorem contents_construct [NeZero N] (buffer : Fin N → α) : (construct buffer).contents = [] := rfl

/-- **Appending** to a queue that is not full. -/
theorem IsQueue.append (h : d.IsQueue) (hsize : d.size < N) (value : α) :
    (d.append value).IsQueue ∧ (d.append value).contents = d.contents ++ [value] := by
  have hfull : d.isFull = false := beq_eq_false_iff_ne.2 (Nat.ne_of_lt hsize)
  rw [BoundedDeque.append, hfull, if_neg Bool.false_ne_true]
  refine ⟨⟨hsize, ?_⟩, ?_⟩
  · rw [Function.iterate_succ_apply', ← h.head]
  · have hfree := iterate_next_notMem d.tail hsize
    rw [contents, contents, List.iterate_add, List.map_append, h.head]
    congr 1
    · refine List.map_congr_left fun slot hslot => Function.update_of_ne ?_ _ _
      rintro rfl
      exact hfree hslot
    · exact congrArg (fun v => [v]) (Function.update_self _ _ _)

/-- **Removing the front** of a queue that is not empty. -/
theorem IsQueue.removeFront (h : d.IsQueue) (hsize : 0 < d.size) :
    d.removeFront.IsQueue ∧ d.contents = d.getFront :: d.removeFront.contents := by
  obtain ⟨k, hk⟩ := Nat.exists_eq_add_of_lt hsize
  rw [Nat.zero_add] at hk
  refine ⟨⟨(Nat.sub_le _ _).trans h.size_le, ?_⟩, ?_⟩
  · have hhead := h.head
    rw [hk, Function.iterate_succ_apply] at hhead
    rw [BoundedDeque.removeFront, hk, Nat.add_sub_cancel]
    exact hhead
  · rw [contents, contents, BoundedDeque.removeFront, hk, Nat.add_sub_cancel, List.iterate]
    rfl

theorem next_previous (slot : Fin N) : next (previous slot) = slot := by
  apply Fin.ext
  have hlt := slot.isLt
  simp only [next, previous]
  split_ifs <;> omega

theorem next_injective : Function.Injective (next : Fin N → Fin N) := by
  intro slot slot' h
  apply Fin.ext
  have hval := congrArg Fin.val h
  have hlt := slot.isLt
  have hlt' := slot'.isLt
  simp only [next] at hval
  split_ifs at hval <;> omega

/-- **Removing the back** of a queue that is not empty. -/
theorem IsQueue.removeBack (h : d.IsQueue) (hsize : 0 < d.size) :
    d.removeBack.IsQueue ∧ d.contents = d.removeBack.contents ++ [d.getBack] := by
  obtain ⟨k, hk⟩ := Nat.exists_eq_add_of_lt hsize
  rw [Nat.zero_add] at hk
  have hhead : d.head = next^[k] d.tail := by
    have hnext := h.head
    rw [hk, Function.iterate_succ_apply'] at hnext
    exact next_injective hnext
  refine ⟨⟨(Nat.sub_le _ _).trans h.size_le, ?_⟩, ?_⟩
  · rw [BoundedDeque.removeBack, hk, Nat.add_sub_cancel]
    exact (next_previous d.head).trans hhead
  · rw [contents, contents, BoundedDeque.removeBack, hk, Nat.add_sub_cancel, List.iterate_add,
      List.map_append, ← hhead]
    rfl

end Queue

end BoundedDeque

end Aimbots.Tap
