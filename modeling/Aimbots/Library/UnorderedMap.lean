import Mathlib.Logic.Function.Basic
import Mathlib.Data.Set.Finite.Basic
import Mathlib.Data.Finite.Prod

/-!
# `std::unordered_map`

A map is represented by its lookup function: the value stored under each key, and `none` where
the key is absent.  Iteration order is never used by the programs modelled over it, so two maps
with the same lookups are the same map.

* `find?` is `m.find(k)`, with `none` for `m.end()`;
* `set` is the assignment `m[k] = v`;
* `touch` is the side effect of the subscript `m[k]`: a missing key gets the default value;
* `pushBack` is `m[k].push_back(v)` for a map of vectors.
-/

namespace Aimbots

/-- An `unordered_map` from `K` to `V`, as its lookup function. -/
structure UnorderedMap (K V : Type*) where
  find? : K → Option V

namespace UnorderedMap

variable {K V : Type*}

@[ext] theorem ext {m m' : UnorderedMap K V} (h : ∀ k, m.find? k = m'.find? k) : m = m' := by
  cases m; cases m'; congr; funext k; exact h k

/-- The map without entries. -/
def empty : UnorderedMap K V := ⟨fun _ => none⟩

@[simp] theorem find?_empty (k : K) : (empty : UnorderedMap K V).find? k = none := rfl

/-- The keys with an entry. -/
def keys (m : UnorderedMap K V) : Set K := {k | m.find? k ≠ none}

theorem mem_keys {m : UnorderedMap K V} {k : K} : k ∈ m.keys ↔ ∃ v, m.find? k = some v := by
  simp [keys, Option.ne_none_iff_exists']

variable [DecidableEq K]

/-- `m[k] = v`. -/
def set (m : UnorderedMap K V) (k : K) (v : V) : UnorderedMap K V :=
  ⟨Function.update m.find? k (some v)⟩

/-- `m.erase(k)`. -/
def erase (m : UnorderedMap K V) (k : K) : UnorderedMap K V :=
  ⟨Function.update m.find? k none⟩

@[simp] theorem find?_set_self (m : UnorderedMap K V) (k : K) (v : V) :
    (m.set k v).find? k = some v := Function.update_self ..

@[simp] theorem find?_set_of_ne (m : UnorderedMap K V) {k k' : K} (v : V) (h : k' ≠ k) :
    (m.set k v).find? k' = m.find? k' := Function.update_of_ne h ..

@[simp] theorem find?_erase_self (m : UnorderedMap K V) (k : K) : (m.erase k).find? k = none :=
  Function.update_self ..

@[simp] theorem find?_erase_of_ne (m : UnorderedMap K V) {k k' : K} (h : k' ≠ k) :
    (m.erase k).find? k' = m.find? k' := Function.update_of_ne h ..

section Vectors

variable {α : Type*}

/-- The value read by `m[k]` in a map of vectors. -/
def vector (m : UnorderedMap K (List α)) (k : K) : List α := (m.find? k).getD []

/-- The map left by the subscript `m[k]`: a missing key is inserted with an empty vector. -/
def touch (m : UnorderedMap K (List α)) (k : K) : UnorderedMap K (List α) :=
  m.set k (m.vector k)

/-- `m[k].push_back(v)`. -/
def pushBack (m : UnorderedMap K (List α)) (k : K) (v : α) : UnorderedMap K (List α) :=
  m.set k (m.vector k ++ [v])

@[simp] theorem vector_touch (m : UnorderedMap K (List α)) (k k' : K) :
    (m.touch k).vector k' = m.vector k' := by
  by_cases h : k' = k
  · subst h; simp [touch, vector]
  · simp [touch, vector, h]

theorem vector_pushBack_self (m : UnorderedMap K (List α)) (k : K) (v : α) :
    (m.pushBack k v).vector k = m.vector k ++ [v] := by
  simp [pushBack, vector]

theorem vector_pushBack_of_ne (m : UnorderedMap K (List α)) {k k' : K} (v : α) (h : k' ≠ k) :
    (m.pushBack k v).vector k' = m.vector k' := by
  simp [pushBack, vector, h]

theorem mem_vector_pushBack {m : UnorderedMap K (List α)} {k k' : K} {v w : α} :
    w ∈ (m.pushBack k v).vector k' ↔ w ∈ m.vector k' ∨ (k' = k ∧ w = v) := by
  by_cases h : k' = k
  · subst h; simp [vector_pushBack_self]
  · simp [vector_pushBack_of_ne _ _ h, h]

omit [DecidableEq K] in
/-- What a loop leaves in a map of vectors, if every round adds the pairs of a relation. -/
theorem mem_vector_foldl {ι : Type*} (f : UnorderedMap K (List α) → ι → UnorderedMap K (List α))
    (R : ι → K → α → Prop)
    (hf : ∀ m i k w, w ∈ (f m i).vector k ↔ w ∈ m.vector k ∨ R i k w) (l : List ι)
    (m : UnorderedMap K (List α)) (k : K) (w : α) :
    w ∈ (l.foldl f m).vector k ↔ w ∈ m.vector k ∨ ∃ i ∈ l, R i k w := by
  induction l generalizing m with
  | nil => simp
  | cons i l ih => simp [ih, hf, or_assoc]

/-- `m'` has the vectors of `m`, and may have more keys, with empty ones. -/
structure Extends (m m' : UnorderedMap K (List α)) : Prop where
  vector_eq : ∀ k, m'.vector k = m.vector k
  keys_subset : m.keys ⊆ m'.keys

omit [DecidableEq K] in
theorem Extends.refl (m : UnorderedMap K (List α)) : m.Extends m := ⟨fun _ => rfl, subset_rfl⟩

omit [DecidableEq K] in
theorem Extends.trans {m m' m'' : UnorderedMap K (List α)} (h : m.Extends m')
    (h' : m'.Extends m'') : m.Extends m'' :=
  ⟨fun k => (h'.vector_eq k).trans (h.vector_eq k), h.keys_subset.trans h'.keys_subset⟩

omit [DecidableEq K] in
/-- The entries stay as they are. -/
theorem Extends.find?_eq {m m' : UnorderedMap K (List α)} (h : m.Extends m') {k : K}
    (hk : k ∈ m.keys) : m'.find? k = m.find? k := by
  obtain ⟨l, hl⟩ := mem_keys.1 hk
  obtain ⟨l', hl'⟩ := mem_keys.1 (h.keys_subset hk)
  have hvector := h.vector_eq k
  rw [vector, vector, hl, hl'] at hvector
  rw [hl, hl']
  exact congrArg some hvector

theorem mem_keys_touch {m : UnorderedMap K (List α)} {k k' : K} :
    k' ∈ (m.touch k).keys ↔ k' = k ∨ k' ∈ m.keys := by
  by_cases h : k' = k
  · subst h
    simp [keys, touch]
  · simp [keys, touch, h]

theorem extends_touch (m : UnorderedMap K (List α)) (k : K) : m.Extends (m.touch k) :=
  ⟨vector_touch m k, fun _ hk => mem_keys_touch.2 (.inr hk)⟩

theorem mem_keys_pushBack {m : UnorderedMap K (List α)} {k k' : K} {v : α} :
    k' ∈ (m.pushBack k v).keys ↔ k' = k ∨ k' ∈ m.keys := by
  by_cases h : k' = k
  · subst h
    simp [keys, pushBack]
  · simp [keys, pushBack, h]

/-- What a loop leaves that removes elements from the vectors of some keys. -/
theorem find?_foldl_filter (p : α → Bool) (l : List K) (m : UnorderedMap K (List α)) (k : K) :
    (l.foldl (fun m v => m.set v ((m.vector v).filter p)) m).find? k =
      if k ∈ l then some ((m.vector k).filter p) else m.find? k := by
  induction l generalizing m with
  | nil => rfl
  | cons v l ih =>
    rw [List.foldl_cons, ih]
    by_cases hv : k = v
    · subst hv
      simp [vector]
    · simp [vector, hv]

end Vectors

end UnorderedMap

end Aimbots
