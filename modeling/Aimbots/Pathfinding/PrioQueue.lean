import Aimbots.Library.UnorderedMap
import Mathlib.Data.List.Sort
import Mathlib.Order.Bounds.Basic

/-!
# `pathfinding/prio_queue.h`: the priority queue of the path search

`items` is a `std::list` of pairs kept in order of priority and `item_map` holds, for each queued
element, the iterator to its list node.  An iterator is the address of a node, so the list nodes
carry their addresses and `fresh` is the next one the allocator hands out.

`RawQueue` is the structure with the code's operations; `RawQueue.Wf` is its invariant: the list
is sorted, no element occurs twice, and the map points exactly at the nodes of the list.
`PrioQueue` is a queue together with its invariant, and `PrioQueue.Holds q x p` says that `x` is
queued with priority `p`; `holds_put` and `holds_get` describe both operations by it.
-/

namespace Aimbots.Pathfinding

/-- A node of the list: its address and the stored pair. -/
structure ListNode (T P : Type*) where
  addr : ℕ
  first : T
  second : P

/-- An iterator: the address of the node it points to, `none` for `end()`. -/
abbrev Iterator := Option ℕ

section List

variable {T P : Type*}

/-- `*it`. -/
def deref (items : List (ListNode T P)) (it : ℕ) : Option (ListNode T P) :=
  items.find? (·.addr = it)

/-- `items.erase(it)`. -/
def listErase (items : List (ListNode T P)) (it : ℕ) : List (ListNode T P) :=
  items.filter (·.addr ≠ it)

/-- `items.insert(pos, node)`: the node is placed before `pos`. -/
def listInsert (items : List (ListNode T P)) (pos : Iterator) (node : ListNode T P) :
    List (ListNode T P) :=
  match pos with
  | none => items ++ [node]
  | some a => items.takeWhile (·.addr ≠ a) ++ node :: items.dropWhile (·.addr ≠ a)

variable [LinearOrder P]

/-- `find_position`: the first node whose priority exceeds the given one. -/
def findPosition (items : List (ListNode T P)) (priority : P) : Iterator :=
  (items.find? (priority < ·.second)).map (·.addr)

/-- Insertion at the found position is ordered insertion after the nodes of equal priority. -/
theorem listInsert_findPosition (items : List (ListNode T P)) (node : ListNode T P)
    (hnd : (items.map (·.addr)).Nodup) :
    listInsert items (findPosition items node.second) node =
      items.orderedInsert (fun m n => m.second < n.second) node := by
  induction items with
  | nil => rfl
  | cons n items ih =>
    rw [List.map_cons, List.nodup_cons] at hnd
    by_cases h : node.second < n.second
    · simp [findPosition, listInsert, List.orderedInsert, h]
    · rw [List.orderedInsert, if_neg h, ← ih hnd.2]
      simp only [findPosition, List.find?_cons, h, decide_false]
      cases hf : items.find? (node.second < ·.second) with
      | none => simp [listInsert]
      | some m =>
        have hm : n.addr ≠ m.addr := fun he =>
          hnd.1 (he ▸ List.mem_map_of_mem (List.mem_of_find?_eq_some hf))
        simp [listInsert, hm]

theorem pairwise_orderedInsert {items : List (ListNode T P)} (node : ListNode T P)
    (h : items.Pairwise (fun m n => m.second ≤ n.second)) :
    (items.orderedInsert (fun m n => m.second < n.second) node).Pairwise
      (fun m n => m.second ≤ n.second) := by
  induction items with
  | nil => simp
  | cons n items ih =>
    obtain ⟨hn, hrest⟩ := List.pairwise_cons.1 h
    rw [List.orderedInsert]
    split_ifs with hlt
    · refine List.pairwise_cons.2 ⟨fun m hm => ?_, h⟩
      rcases List.mem_cons.1 hm with rfl | hm
      · exact hlt.le
      · exact hlt.le.trans (hn m hm)
    · refine List.pairwise_cons.2 ⟨fun m hm => ?_, ih hrest⟩
      rcases (List.mem_orderedInsert _).1 hm with rfl | hm
      · exact not_lt.1 hlt
      · exact hn m hm

end List

/-- The data members of `PrioQueue`, with the allocator's next address. -/
structure RawQueue (T P : Type*) where
  items : List (ListNode T P)
  itemMap : UnorderedMap T ℕ
  fresh : ℕ

namespace RawQueue

variable {T P : Type*}

/-- A queue just constructed. -/
def empty : RawQueue T P := ⟨[], .empty, 0⟩

variable [LinearOrder P] [DecidableEq T]

/-- The insertion shared by both branches of `put`: a new node at the found position, and its
iterator in the map. -/
def insertItem (q : RawQueue T P) (items : List (ListNode T P)) (item : T) (priority : P) :
    RawQueue T P where
  items := listInsert items (findPosition items priority) ⟨q.fresh, item, priority⟩
  itemMap := q.itemMap.set item q.fresh
  fresh := q.fresh + 1

/-- `put`.  A dangling iterator in the map would be undefined behaviour; `Wf` excludes it. -/
def put (q : RawQueue T P) (item : T) (priority : P) : RawQueue T P :=
  match q.itemMap.find? item with
  | some it =>
    match deref q.items it with
    | some node =>
      if priority < node.second then q.insertItem (listErase q.items it) item priority else q
    | none => q
  | none => q.insertItem q.items item priority

omit [LinearOrder P] in
/-- `get`, defined on non-empty queues. -/
def get (q : RawQueue T P) : Option (T × RawQueue T P) :=
  match q.items with
  | [] => none
  | node :: rest =>
    some (node.first, { q with items := rest, itemMap := q.itemMap.erase node.first })

/-- The invariant of the queue. -/
structure Wf (q : RawQueue T P) : Prop where
  sorted : q.items.Pairwise (fun m n => m.second ≤ n.second)
  nodup : (q.items.map (·.first)).Nodup
  addr_nodup : (q.items.map (·.addr)).Nodup
  addr_lt : ∀ n ∈ q.items, n.addr < q.fresh
  map_iff : ∀ x a, q.itemMap.find? x = some a ↔ ∃ n ∈ q.items, n.first = x ∧ n.addr = a

omit [DecidableEq T] in
theorem wf_empty : (empty : RawQueue T P).Wf :=
  ⟨by simp [empty], by simp [empty], by simp [empty], by simp [empty], by simp [empty]⟩

omit [DecidableEq T] in
theorem Wf.eq_of_first {q : RawQueue T P} (hq : q.Wf) {m n : ListNode T P} (hm : m ∈ q.items)
    (hn : n ∈ q.items) (h : m.first = n.first) : m = n :=
  List.inj_on_of_nodup_map hq.nodup hm hn h

omit [DecidableEq T] in
theorem Wf.eq_of_addr {q : RawQueue T P} (hq : q.Wf) {m n : ListNode T P} (hm : m ∈ q.items)
    (hn : n ∈ q.items) (h : m.addr = n.addr) : m = n :=
  List.inj_on_of_nodup_map hq.addr_nodup hm hn h

omit [DecidableEq T] in
/-- The iterators of the map can be dereferenced. -/
theorem Wf.deref_eq {q : RawQueue T P} (hq : q.Wf) {n : ListNode T P} (hn : n ∈ q.items) :
    deref q.items n.addr = some n := by
  obtain ⟨m, hm⟩ := Option.isSome_iff_exists.1
    (List.find?_isSome.2 ⟨n, hn, by simp⟩ : (q.items.find? (·.addr = n.addr)).isSome)
  have haddr : m.addr = n.addr := by simpa using List.find?_some hm
  rw [deref, hm, hq.eq_of_addr (List.mem_of_find?_eq_some hm) hn haddr]

omit [DecidableEq T] in
/-- Erasing through the iterator of an element removes exactly that element. -/
theorem Wf.mem_listErase {q : RawQueue T P} (hq : q.Wf) {m : ListNode T P} (hm : m ∈ q.items)
    {item : T} (hfirst : m.first = item) {n : ListNode T P} :
    n ∈ listErase q.items m.addr ↔ n ∈ q.items ∧ n.first ≠ item := by
  subst hfirst
  simp only [listErase, List.mem_filter, decide_eq_true_eq]
  refine and_congr_right fun hn => not_congr ⟨fun h => ?_, fun h => ?_⟩
  · rw [hq.eq_of_addr hn hm h]
  · rw [hq.eq_of_first hn hm h]

theorem mem_insertItem (q : RawQueue T P) {items : List (ListNode T P)}
    (hnd : (items.map (·.addr)).Nodup) {item : T} {priority : P} {n : ListNode T P} :
    n ∈ (q.insertItem items item priority).items ↔ n = ⟨q.fresh, item, priority⟩ ∨ n ∈ items := by
  rw [insertItem, listInsert_findPosition items ⟨q.fresh, item, priority⟩ hnd,
    List.mem_orderedInsert]

/-- Inserting an element into a list that does not hold it keeps the invariant, provided the
list is a part of the queue's and the map points at it for every other element. -/
theorem wf_insertItem {q : RawQueue T P} (hq : q.Wf) {items : List (ListNode T P)} {item : T}
    (priority : P) (hsub : items.Sublist q.items)
    (hitems : ∀ n, n ∈ items ↔ n ∈ q.items ∧ n.first ≠ item) :
    (q.insertItem items item priority).Wf := by
  have hnd := hq.addr_nodup.sublist (hsub.map (·.addr))
  have hins := listInsert_findPosition items ⟨q.fresh, item, priority⟩ hnd
  have hperm := List.perm_orderedInsert (fun m n : ListNode T P => m.second < n.second)
    ⟨q.fresh, item, priority⟩ items
  refine ⟨?_, ?_, ?_, ?_, ?_⟩
  · rw [insertItem, hins]
    exact pairwise_orderedInsert _ (hq.sorted.sublist hsub)
  · rw [insertItem, hins, (hperm.map _).nodup_iff, List.map_cons, List.nodup_cons]
    refine ⟨fun h => ?_, hq.nodup.sublist (hsub.map (·.first))⟩
    obtain ⟨n, hn, he⟩ := List.mem_map.1 h
    exact ((hitems n).1 hn).2 he
  · rw [insertItem, hins, (hperm.map _).nodup_iff, List.map_cons, List.nodup_cons]
    refine ⟨fun h => ?_, hnd⟩
    obtain ⟨n, hn, he⟩ := List.mem_map.1 h
    exact absurd he (hq.addr_lt n (hsub.mem hn)).ne
  · intro n hn
    rcases (mem_insertItem q hnd).1 hn with rfl | hn
    · exact Nat.lt_succ_self _
    · exact Nat.lt_succ_of_lt (hq.addr_lt n (hsub.mem hn))
  · intro x a
    simp only [mem_insertItem q hnd]
    by_cases hx : x = item
    · subst hx
      constructor
      · intro h
        refine ⟨_, Or.inl rfl, rfl, ?_⟩
        simpa [insertItem] using h
      · rintro ⟨n, rfl | hn, hfirst, rfl⟩
        · simp [insertItem]
        · exact absurd hfirst ((hitems n).1 hn).2
    · rw [insertItem, UnorderedMap.find?_set_of_ne _ _ hx, hq.map_iff]
      constructor
      · rintro ⟨n, hn, rfl, rfl⟩
        exact ⟨n, Or.inr ((hitems n).2 ⟨hn, hx⟩), rfl, rfl⟩
      · rintro ⟨n, rfl | hn, hfirst, rfl⟩
        · exact absurd hfirst.symm hx
        · exact ⟨n, hsub.mem hn, hfirst, rfl⟩

/-- What `put` does: it inserts the element among the others, or leaves the queue as it is because
the element is queued with a priority that is no greater. -/
theorem Wf.put_cases {q : RawQueue T P} (hq : q.Wf) (item : T) (priority : P) :
    ((∀ n ∈ q.items, n.first = item → priority < n.second) ∧
        ∃ items, items.Sublist q.items ∧ (∀ n, n ∈ items ↔ n ∈ q.items ∧ n.first ≠ item) ∧
          q.put item priority = q.insertItem items item priority) ∨
      (q.put item priority = q ∧ ∃ n ∈ q.items, n.first = item ∧ n.second ≤ priority) := by
  unfold put
  cases hf : q.itemMap.find? item with
  | none =>
    have hnot : ∀ n ∈ q.items, n.first ≠ item := by
      intro n hn he
      have := (hq.map_iff item n.addr).2 ⟨n, hn, he, rfl⟩
      simp [hf] at this
    refine Or.inl ⟨fun n hn he => absurd he (hnot n hn), q.items, List.Sublist.refl _,
      fun n => ?_, rfl⟩
    exact ⟨fun hn => ⟨hn, hnot n hn⟩, And.left⟩
  | some it =>
    obtain ⟨m, hm, hfirst, rfl⟩ := (hq.map_iff item it).1 hf
    simp only [hq.deref_eq hm]
    split_ifs with hlt
    · refine Or.inl ⟨fun n hn he => ?_, _, List.filter_sublist,
        fun n => hq.mem_listErase hm hfirst, rfl⟩
      rwa [hq.eq_of_first hn hm (he.trans hfirst.symm)]
    · exact Or.inr ⟨rfl, m, hm, hfirst, not_lt.1 hlt⟩

theorem wf_put {q : RawQueue T P} (hq : q.Wf) (item : T) (priority : P) :
    (q.put item priority).Wf := by
  rcases hq.put_cases item priority with ⟨-, items, hsub, hitems, heq⟩ | ⟨heq, -⟩
  · rw [heq]
    exact wf_insertItem hq priority hsub hitems
  · rwa [heq]

theorem wf_get {q q' : RawQueue T P} {x : T} (hq : q.Wf) (h : q.get = some (x, q')) : q'.Wf := by
  obtain ⟨items, itemMap, fresh⟩ := q
  cases items with
  | nil => simp [get] at h
  | cons node rest =>
    simp only [get, Option.some.injEq, Prod.mk.injEq] at h
    obtain ⟨rfl, rfl⟩ := h
    obtain ⟨hsorted, hnodup, haddr, hlt, hmap⟩ := hq
    rw [List.map_cons, List.nodup_cons] at hnodup haddr
    refine ⟨(List.pairwise_cons.1 hsorted).2, hnodup.2, haddr.2,
      fun n hn => hlt n (List.mem_cons_of_mem _ hn), fun x a => ?_⟩
    by_cases hx : x = node.first
    · subst hx
      simp only [UnorderedMap.find?_erase_self, reduceCtorEq, false_iff]
      rintro ⟨n, hn, hfirst, -⟩
      exact hnodup.1 (hfirst ▸ List.mem_map_of_mem hn)
    · rw [UnorderedMap.find?_erase_of_ne _ hx]
      refine (hmap x a).trans ⟨?_, ?_⟩
      · rintro ⟨n, hn, hfirst, ha⟩
        rcases List.mem_cons.1 hn with rfl | hn
        · exact absurd hfirst.symm hx
        · exact ⟨n, hn, hfirst, ha⟩
      · rintro ⟨n, hn, hfirst, ha⟩
        exact ⟨n, List.mem_cons_of_mem _ hn, hfirst, ha⟩

end RawQueue

/-! ### Queues with their invariant -/

/-- A priority queue: the data members and their invariant. -/
structure PrioQueue (T P : Type*) [LinearOrder P] where
  raw : RawQueue T P
  wf : raw.Wf

namespace PrioQueue

variable {T P : Type*} [LinearOrder P]

/-- A queue just constructed. -/
def empty : PrioQueue T P := ⟨.empty, RawQueue.wf_empty⟩

/-- `x` is queued with priority `p`. -/
def Holds (q : PrioQueue T P) (x : T) (p : P) : Prop :=
  ∃ n ∈ q.raw.items, n.first = x ∧ n.second = p

/-- The number of queued elements. -/
def size (q : PrioQueue T P) : ℕ := q.raw.items.length

@[simp] theorem not_holds_empty (x : T) (p : P) : ¬ (empty : PrioQueue T P).Holds x p := by
  rintro ⟨n, hn, -⟩; simp [empty, RawQueue.empty] at hn

variable [DecidableEq T]

/-- `put`. -/
def put (q : PrioQueue T P) (item : T) (priority : P) : PrioQueue T P :=
  ⟨q.raw.put item priority, RawQueue.wf_put q.wf item priority⟩

/-- `get`, `none` on an empty queue. -/
def get (q : PrioQueue T P) : Option (T × PrioQueue T P) :=
  match h : q.raw.get with
  | none => none
  | some (x, q') => some (x, ⟨q', RawQueue.wf_get q.wf h⟩)

omit [DecidableEq T] in
/-- An element is queued with one priority. -/
theorem Holds.unique {q : PrioQueue T P} {x : T} {p r : P} (hp : q.Holds x p) (hr : q.Holds x r) :
    p = r := by
  obtain ⟨m, hm, hmx, rfl⟩ := hp
  obtain ⟨n, hn, hnx, rfl⟩ := hr
  rw [q.wf.eq_of_first hm hn (hmx.trans hnx.symm)]

/-- `put` leaves the other elements as they are. -/
theorem holds_put_of_ne (q : PrioQueue T P) {item x : T} (h : x ≠ item) (priority p : P) :
    (q.put item priority).Holds x p ↔ q.Holds x p := by
  rcases q.wf.put_cases item priority with ⟨-, items, hsub, hitems, heq⟩ | ⟨heq, -⟩
  · have hnd := q.wf.addr_nodup.sublist (hsub.map (·.addr))
    simp only [Holds, put, heq, RawQueue.mem_insertItem _ hnd, hitems]
    constructor
    · rintro ⟨n, rfl | ⟨hn, -⟩, rfl, rfl⟩
      · exact absurd rfl h
      · exact ⟨n, hn, rfl, rfl⟩
    · rintro ⟨n, hn, rfl, rfl⟩
      exact ⟨n, Or.inr ⟨hn, h⟩, rfl, rfl⟩
  · simp only [Holds, put, heq]

/-- After `put` the element has the lesser of the priority it had and the one put. -/
theorem holds_put_self (q : PrioQueue T P) (item : T) (priority p : P) :
    (q.put item priority).Holds item p ↔ IsLeast (insert priority {r | q.Holds item r}) p := by
  rcases q.wf.put_cases item priority with ⟨hlt, items, hsub, hitems, heq⟩ | ⟨heq, m, hm, hmx, hle⟩
  · have hnd := q.wf.addr_nodup.sublist (hsub.map (·.addr))
    have hleast : IsLeast (insert priority {r | q.Holds item r}) priority := by
      refine ⟨Set.mem_insert _ _, ?_⟩
      rintro r (rfl | ⟨n, hn, hfirst, rfl⟩)
      · exact le_rfl
      · exact (hlt n hn hfirst).le
    rw [show IsLeast (insert priority {r | q.Holds item r}) p ↔ p = priority from
      ⟨fun h => h.unique hleast, fun h => h ▸ hleast⟩]
    simp only [Holds, put, heq, RawQueue.mem_insertItem _ hnd, hitems]
    constructor
    · rintro ⟨n, rfl | ⟨-, hne⟩, hfirst, rfl⟩
      · rfl
      · exact absurd hfirst hne
    · rintro rfl
      exact ⟨_, Or.inl rfl, rfl, rfl⟩
  · have hput : (q.put item priority).Holds item p ↔ q.Holds item p := by
      simp only [Holds, put, heq]
    have hm' : q.Holds item m.second := ⟨m, hm, hmx, rfl⟩
    have hleast : IsLeast (insert priority {r | q.Holds item r}) m.second := by
      refine ⟨Set.mem_insert_of_mem _ hm', ?_⟩
      rintro r (rfl | hr)
      · exact hle
      · exact (hm'.unique hr).le
    rw [hput]
    exact ⟨fun h => h.unique hm' ▸ hleast, fun h => h.unique hleast ▸ hm'⟩

/-- What `put` leaves: the element has the new priority if it was not queued or was queued with
a greater one; nothing else changes. -/
theorem holds_put (q : PrioQueue T P) (item : T) (priority : P)
    (h : ∀ p, q.Holds item p → priority < p) (x : T) (p : P) :
    (q.put item priority).Holds x p ↔
      (x = item ∧ p = priority) ∨ (x ≠ item ∧ q.Holds x p) := by
  by_cases hx : x = item
  · subst hx
    have hleast : IsLeast (insert priority {r | q.Holds x r}) priority := by
      refine ⟨Set.mem_insert _ _, ?_⟩
      rintro r (rfl | hr)
      · exact le_rfl
      · exact (h r hr).le
    have hiff : IsLeast (insert priority {r | q.Holds x r}) p ↔ p = priority :=
      ⟨fun h => h.unique hleast, fun h => h ▸ hleast⟩
    simp [holds_put_self, hiff]
  · simp [holds_put_of_ne q hx, hx]

theorem get_eq_none {q : PrioQueue T P} : q.get = none ↔ ∀ x p, ¬ q.Holds x p := by
  obtain ⟨⟨items, itemMap, fresh⟩, wf⟩ := q
  cases items with
  | nil => simp [get, RawQueue.get, Holds]
  | cons node rest =>
    refine iff_of_false (by simp [get, RawQueue.get]) fun h => ?_
    exact h node.first node.second ⟨node, List.mem_cons_self, rfl, rfl⟩

theorem get_eq_some {q : PrioQueue T P} {x : T} {raw : RawQueue T P}
    (h : q.raw.get = some (x, raw)) : q.get = some (x, ⟨raw, RawQueue.wf_get q.wf h⟩) := by
  unfold get
  split
  next hnone => simp [h] at hnone
  next y raw' hsome =>
    obtain ⟨rfl, rfl⟩ := Prod.mk.inj (Option.some.inj (hsome.symm.trans h))
    rfl

/-- What `get` returns and leaves: an element of least priority, and the others. -/
theorem holds_get {q q' : PrioQueue T P} {x : T} (h : q.get = some (x, q')) :
    (∃ p, q.Holds x p ∧ ∀ y r, q.Holds y r → p ≤ r) ∧
      (∀ y r, q'.Holds y r ↔ y ≠ x ∧ q.Holds y r) ∧ q'.size + 1 = q.size := by
  obtain ⟨⟨items, itemMap, fresh⟩, wf⟩ := q
  cases items with
  | nil => simp [get, RawQueue.get] at h
  | cons node rest =>
    simp only [get, RawQueue.get, Option.some.injEq, Prod.mk.injEq] at h
    obtain ⟨rfl, rfl⟩ := h
    have hnodup := wf.nodup
    rw [List.map_cons, List.nodup_cons] at hnodup
    refine ⟨⟨node.second, ⟨node, List.mem_cons_self, rfl, rfl⟩, ?_⟩, fun y r => ?_, rfl⟩
    · rintro y r ⟨n, hn, rfl, rfl⟩
      rcases List.mem_cons.1 hn with rfl | hn
      · exact le_rfl
      · exact (List.pairwise_cons.1 wf.sorted).1 n hn
    · constructor
      · rintro ⟨n, hn, rfl, rfl⟩
        exact ⟨fun he => hnodup.1 (he ▸ List.mem_map_of_mem hn), n,
          List.mem_cons_of_mem _ hn, rfl, rfl⟩
      · rintro ⟨hne, n, hn, rfl, rfl⟩
        rcases List.mem_cons.1 hn with rfl | hn
        · exact absurd rfl hne
        · exact ⟨n, hn, rfl, rfl⟩

end PrioQueue

end Aimbots.Pathfinding
