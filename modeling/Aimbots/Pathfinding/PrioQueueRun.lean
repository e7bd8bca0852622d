import Aimbots.Pathfinding.PrioQueue
import Mathlib.Data.Set.Finite.Lattice
import Mathlib.Order.Preorder.Finite

/-!
# `pathfinding/prio_queue.h`: any sequence of calls

A run is a sequence of calls of `put` and of `get`, the latter only on a queue that is not empty,
and a log of them, the latest call first.  `putsSince x` reads from the log the priorities put for
`x` since it last left the queue; it is the specification of the priority stored for `x`, which is
the least of them (`QueueRun.Inv`).  `prioQueue_run` says this of every run, with the order of the
list, the map of iterators and what the next `get` does.
-/

namespace Aimbots.Pathfinding

/-- A call of the queue. -/
inductive QueueCall (T P : Type*)
  | put (item : T) (priority : P)
  | get

/-- What the log keeps of a call: `get` is kept with the element it returned. -/
inductive QueueEvent (T P : Type*)
  | put (item : T) (priority : P)
  | got (item : T)

section Log

variable {T P : Type*} [DecidableEq T]

/-- The priorities put for `x` since the last `get` that returned it. -/
def putsSince (x : T) : List (QueueEvent T P) → List P
  | [] => []
  | .put item priority :: log =>
    if x = item then priority :: putsSince x log else putsSince x log
  | .got item :: log => if x = item then [] else putsSince x log

@[simp] theorem putsSince_put_self (x : T) (p : P) (log : List (QueueEvent T P)) :
    putsSince x (.put x p :: log) = p :: putsSince x log := if_pos rfl

@[simp] theorem putsSince_got_self (x : T) (log : List (QueueEvent T P)) :
    putsSince x (.got x :: log) = [] := if_pos rfl

theorem putsSince_put_of_ne {x item : T} (h : x ≠ item) (p : P) (log : List (QueueEvent T P)) :
    putsSince x (.put item p :: log) = putsSince x log := if_neg h

theorem putsSince_got_of_ne {x item : T} (h : x ≠ item) (log : List (QueueEvent T P)) :
    putsSince x (.got item :: log) = putsSince x log := if_neg h

end Log

/-- A least element that is replaced by the lesser of itself and `a`. -/
theorem isLeast_insert_isLeast {P : Type*} [LinearOrder P] {S : Set P} (hS : S.Finite) (a p : P) :
    IsLeast (insert a {r | IsLeast S r}) p ↔ IsLeast (insert a S) p := by
  rcases S.eq_empty_or_nonempty with rfl | hne
  · simp [IsLeast]
  · obtain ⟨m, hmin⟩ := hS.exists_minimal hne
    have hm : IsLeast S m := ⟨hmin.prop, fun r hr => hmin.le hr⟩
    have hset : {r | IsLeast S r} = {m} := by
      ext r
      exact ⟨fun hr => hr.unique hm, fun hr => hr ▸ hm⟩
    have hleast : IsLeast (insert a S) (min a m) := hm.insert a
    have hleast' : IsLeast (insert a {m}) (min a m) := isLeast_singleton.insert a
    rw [hset]
    exact ⟨fun h => h.unique hleast' ▸ hleast, fun h => h.unique hleast ▸ hleast'⟩

/-- A queue and the log of the calls that led to it. -/
structure QueueRun (T P : Type*) where
  queue : RawQueue T P
  log : List (QueueEvent T P)

namespace QueueRun

variable {T P : Type*} [LinearOrder P] [DecidableEq T]

/-- One call; `none` is a `get` on the empty queue. -/
def call (r : QueueRun T P) : QueueCall T P → Option (QueueRun T P)
  | .put item priority => some ⟨r.queue.put item priority, .put item priority :: r.log⟩
  | .get => r.queue.get.map fun got => ⟨got.2, .got got.1 :: r.log⟩

/-- The calls of a run, from a queue just constructed. -/
def run (calls : List (QueueCall T P)) : Option (QueueRun T P) :=
  calls.foldlM call ⟨.empty, []⟩

omit [LinearOrder P] [DecidableEq T] in
/-- The priority stored with an element. -/
def Stored (r : QueueRun T P) (x : T) (p : P) : Prop :=
  ∃ n ∈ r.queue.items, n.first = x ∧ n.second = p

/-- The invariant of a run: the one of the queue, and the priority stored with an element is the
least of those put for it since it was inserted. -/
structure Inv (r : QueueRun T P) : Prop where
  wf : r.queue.Wf
  stored : ∀ x p, r.Stored x p ↔ IsLeast {s | s ∈ putsSince x r.log} p

theorem inv_empty : (⟨.empty, []⟩ : QueueRun T P).Inv :=
  ⟨RawQueue.wf_empty, fun x p => by simp [Stored, RawQueue.empty, putsSince, IsLeast]⟩

theorem Inv.put {r : QueueRun T P} (h : r.Inv) (item : T) (priority : P) :
    (⟨r.queue.put item priority, .put item priority :: r.log⟩ : QueueRun T P).Inv := by
  let q : PrioQueue T P := ⟨r.queue, h.wf⟩
  refine ⟨RawQueue.wf_put h.wf item priority, fun x p => ?_⟩
  by_cases hx : x = item
  · subst hx
    have hset : {s | q.Holds x s} = {s | IsLeast {s | s ∈ putsSince x r.log} s} :=
      Set.ext (h.stored x)
    have hinsert : {s | s ∈ putsSince x (.put x priority :: r.log)} =
        insert priority {s | s ∈ putsSince x r.log} := by
      ext s
      simp
    rw [hinsert, ← isLeast_insert_isLeast (List.finite_toSet _), ← hset]
    exact PrioQueue.holds_put_self q x priority p
  · rw [putsSince_put_of_ne hx]
    exact (PrioQueue.holds_put_of_ne q hx priority p).trans (h.stored x p)

theorem Inv.get {r : QueueRun T P} (h : r.Inv) {x : T} {queue : RawQueue T P}
    (hget : r.queue.get = some (x, queue)) :
    (⟨queue, .got x :: r.log⟩ : QueueRun T P).Inv := by
  let q : PrioQueue T P := ⟨r.queue, h.wf⟩
  have hq : q.get = some (x, ⟨queue, RawQueue.wf_get h.wf hget⟩) := PrioQueue.get_eq_some hget
  obtain ⟨-, hrest, -⟩ := PrioQueue.holds_get hq
  refine ⟨RawQueue.wf_get h.wf hget, fun y p => ?_⟩
  by_cases hy : y = x
  · subst hy
    refine (hrest y p).trans ?_
    simp [IsLeast]
  · rw [putsSince_got_of_ne hy]
    exact ((hrest y p).trans (and_iff_right hy)).trans (h.stored y p)

theorem Inv.call {r r' : QueueRun T P} (h : r.Inv) {c : QueueCall T P} (hc : r.call c = some r') :
    r'.Inv := by
  cases c with
  | put item priority =>
    obtain rfl : _ = r' := Option.some.inj hc
    exact h.put item priority
  | get =>
    obtain ⟨⟨x, queue⟩, hget, rfl⟩ := Option.map_eq_some_iff.1 hc
    exact h.get hget

theorem Inv.foldlM {r r' : QueueRun T P} (h : r.Inv) {calls : List (QueueCall T P)}
    (hrun : calls.foldlM QueueRun.call r = some r') : r'.Inv := by
  induction calls generalizing r with
  | nil =>
    obtain rfl : r = r' := Option.some.inj hrun
    exact h
  | cons c calls ih =>
    rw [List.foldlM_cons] at hrun
    obtain ⟨r₁, hc, hrest⟩ := Option.bind_eq_some_iff.1 hrun
    exact ih (h.call hc) hrest

/-- A call fails only as a `get` of the empty queue. -/
theorem call_eq_none {r : QueueRun T P} {c : QueueCall T P} :
    r.call c = none ↔ c = .get ∧ r.queue.items = [] := by
  cases c with
  | put item priority => simp [QueueRun.call]
  | get => cases hi : r.queue.items <;> simp [QueueRun.call, RawQueue.get, hi]

end QueueRun

open QueueRun in
/-- **The queue after any sequence of calls**: the list is in order of priority and holds no element
twice; the map has exactly its elements, each with the iterator to its own node; the priority stored
with an element is the least of those put for it since it was inserted; and `get`, which fails only
on the empty queue, removes and returns an element of least priority and leaves the others. -/
theorem prioQueue_run {T P : Type*} [LinearOrder P] [DecidableEq T] (calls : List (QueueCall T P))
    (r : QueueRun T P) (h : run calls = some r) :
    r.queue.items.Pairwise (fun m n => m.second ≤ n.second) ∧
      (r.queue.items.map (·.first)).Nodup ∧
      (∀ x it, r.queue.itemMap.find? x = some it ↔
        ∃ n ∈ r.queue.items, n.first = x ∧ n.addr = it) ∧
      (∀ n ∈ r.queue.items, deref r.queue.items n.addr = some n) ∧
      (∀ x p, r.Stored x p ↔ IsLeast {s | s ∈ putsSince x r.log} p) ∧
      (r.call .get = none ↔ r.queue.items = []) ∧
      ∀ x queue, r.queue.get = some (x, queue) →
        (∃ p, r.Stored x p ∧ ∀ y s, r.Stored y s → p ≤ s) ∧
        r.call .get = some ⟨queue, .got x :: r.log⟩ ∧
        ∀ y s, (⟨queue, .got x :: r.log⟩ : QueueRun T P).Stored y s ↔ y ≠ x ∧ r.Stored y s := by
  have hinv : r.Inv := inv_empty.foldlM h
  refine ⟨hinv.wf.sorted, hinv.wf.nodup, hinv.wf.map_iff, fun n hn => hinv.wf.deref_eq hn,
    hinv.stored, call_eq_none.trans (and_iff_right rfl), fun x queue hget => ?_⟩
  have hq : (⟨r.queue, hinv.wf⟩ : PrioQueue T P).get = some (x, ⟨queue, _⟩) :=
    PrioQueue.get_eq_some hget
  obtain ⟨hleast, hrest, -⟩ := PrioQueue.holds_get hq
  exact ⟨hleast, by simp [QueueRun.call, hget], hrest⟩

/-- An element whose priority is lowered and one that is put again after it was taken. -/
theorem prioQueue_run_decrease :
    ∃ r : QueueRun ℕ ℕ,
      QueueRun.run [.put 1 5, .put 2 3, .put 1 2, .get, .put 1 7] = some r ∧
        (r.Stored 1 7 ↔ IsLeast {s | s ∈ putsSince 1 r.log} 7) ∧ putsSince 1 r.log = [7] :=
  ⟨_, rfl, (prioQueue_run [.put 1 5, .put 2 3, .put 1 2, .get, .put 1 7] _ rfl).2.2.2.2.1 1 7, rfl⟩

end Aimbots.Pathfinding
