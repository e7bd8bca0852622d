import Mathlib.Algebra.Order.Group.Defs
import Mathlib.Algebra.Order.Monoid.Unbundled.Basic
import Mathlib.Data.Set.Finite.List
import Mathlib.Logic.Relation
import Mathlib.Tactic.Abel
import Mathlib.Order.Defs.LinearOrder

/-!
# Walks in a weighted directed graph

A graph is an edge relation `E` on a type of nodes and a cost `c` for every ordered pair of nodes.
`Walk E u v p` says that the list `p` of nodes is a walk from `u` to `v`, and `cost c p` is the sum
of the costs of its edges.

`IsShortest E c u v p` says that `p` is a walk of least cost.  When only finitely many nodes can be
reached there are only finitely many walks without repetition (`finite_nodup`).
-/

namespace Aimbots

variable {N K : Type*}

/-- `p` lists the nodes of a walk from `u` to `v` along edges of `E`. -/
inductive Walk (E : N → N → Prop) : N → N → List N → Prop
  | nil (u : N) : Walk E u u [u]
  | cons {u v w : N} {p : List N} : E u v → Walk E v w p → Walk E u w (u :: p)

namespace Walk

variable {E : N → N → Prop} {u v w : N} {p q : List N}

theorem ne_nil (h : Walk E u v p) : p ≠ [] := by cases h <;> simp

theorem head (h : Walk E u v p) : p.head? = some u := by cases h <;> rfl

theorem getLast (h : Walk E u v p) : p.getLast? = some v := by
  induction h with
  | nil u => rfl
  | cons hE hp ih => rw [List.getLast?_cons, ih]; rfl

theorem snoc (h : Walk E u v p) (hE : E v w) : Walk E u w (p ++ [w]) := by
  induction h with
  | nil u => exact .cons hE (.nil w)
  | cons hE' hp ih => exact .cons hE' (ih hE)

theorem reachable (h : Walk E u v p) : Relation.ReflTransGen E u v := by
  induction h with
  | nil u => exact .refl
  | cons hE hp ih => exact .head hE ih

theorem mem_reachable (h : Walk E u v p) : ∀ x ∈ p, Relation.ReflTransGen E u x := by
  induction h with
  | nil u => rintro x hx; rw [List.mem_singleton.1 hx]
  | cons hE hp ih =>
    intro x hx
    rcases List.mem_cons.1 hx with rfl | hx
    · exact .refl
    · exact .head hE (ih x hx)

theorem mono {E' : N → N → Prop} (hE : ∀ a b, E a b → E' a b) (h : Walk E u v p) :
    Walk E' u v p := by
  induction h with
  | nil u => exact .nil u
  | cons hE' hp ih => exact .cons (hE _ _ hE') ih

/-- The consecutive pairs of a walk are edges. -/
theorem edge_of_mem_zip (h : Walk E u v p) : ∀ e ∈ p.zip p.tail, E e.1 e.2 := by
  induction h with
  | nil u => simp
  | @cons u v w p hE hp ih =>
    cases hp with
    | nil => simpa using hE
    | cons hE' hp' =>
      intro e he
      rcases List.mem_cons.1 he with rfl | he
      · exact hE
      · exact ih e he

/-- If finitely many nodes are reachable from `u`, there are finitely many walks from `u` that
repeat no node. -/
theorem finite_nodup (h : {v | Relation.ReflTransGen E u v}.Finite) :
    {p | p.Nodup ∧ ∃ v, Walk E u v p}.Finite := by
  classical
  have := h.to_subtype
  refine ((List.finite_length_le {v | Relation.ReflTransGen E u v} h.toFinset.card).image
    (List.map Subtype.val)).subset ?_
  rintro p ⟨hnd, v, hp⟩
  refine ⟨p.attach.map fun x => ⟨x.1, hp.mem_reachable _ x.2⟩, ?_, ?_⟩
  · show (p.attach.map _).length ≤ _
    rw [List.length_map, List.length_attach, ← List.toFinset_card_of_nodup hnd]
    exact Finset.card_le_card fun x hx =>
      h.mem_toFinset.2 (hp.mem_reachable x (List.mem_toFinset.1 hx))
  · simp

end Walk

section Cost

variable [AddCommMonoid K]

/-- The total cost of the edges of a walk. -/
def cost (c : N → N → K) : List N → K
  | u :: v :: p => c u v + cost c (v :: p)
  | _ => 0

variable (c : N → N → K)

@[simp] theorem cost_singleton (u : N) : cost c [u] = 0 := rfl

theorem cost_cons {E : N → N → Prop} {u v w : N} {p : List N} (h : Walk E v w p) :
    cost c (u :: p) = c u v + cost c p := by
  cases h <;> rfl

theorem cost_snoc {E : N → N → Prop} {u v : N} {p : List N} (h : Walk E u v p) (w : N) :
    cost c (p ++ [w]) = cost c p + c v w := by
  induction h with
  | nil u => simp [cost]
  | @cons u v x p hE hp ih =>
    have h1 : cost c (u :: p ++ [w]) = c u v + cost c (p ++ [w]) := by cases hp <;> rfl
    rw [h1, ih, cost_cons c hp, add_assoc]

end Cost

/-- `p` is a walk from `u` to `v` whose cost is minimal among all such walks. -/
def IsShortest [AddCommMonoid K] [LE K] (E : N → N → Prop) (c : N → N → K) (u v : N)
    (p : List N) : Prop :=
  Walk E u v p ∧ ∀ q, Walk E u v q → cost c p ≤ cost c q

theorem cost_nonneg [AddCommMonoid K] [PartialOrder K] [IsOrderedAddMonoid K]
    {E : N → N → Prop} {c : N → N → K} (hc : ∀ u v, E u v → 0 ≤ c u v) {u v : N} {p : List N}
    (h : Walk E u v p) : 0 ≤ cost c p := by
  induction h with
  | nil u => simp
  | cons hE hp ih => rw [cost_cons c hp]; exact add_nonneg (hc _ _ hE) ih

end Aimbots
