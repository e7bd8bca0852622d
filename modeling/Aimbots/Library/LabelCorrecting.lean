import Aimbots.Library.Walk
import Mathlib.Algebra.Order.Group.Basic
import Mathlib.Data.Set.Card
import Mathlib.Order.WellFoundedSet
import Mathlib.Tactic.Linarith

/-!
# Label-correcting search

The common core of the Dijkstra-like searches from a node `start`: every node found so far has a
label (the cost of the best walk found to it) and, except for `start`, a parent (the last node
before it on that walk); the nodes whose outgoing edges still have to be looked at are open.

* `relax` gives a node a better label, `settle` closes a node before its edges are looked at;
* `Inv W` is the invariant of the search, where `W` is the set of the edges that may still be
  unrelaxed although they start at a closed node;
* `Inv.exists_opened` is the frontier lemma: a walk into an open node passes through an open node
  whose label is no worse than the walk up to it;
* `Inv.reachable_label` and `Inv.parent_wellFounded` say what holds when nothing is open and why
  following the parents ends;
* `improvable` is the measure that each `relax` makes smaller.

Costs are in an ordered group; edges may cost nothing, and a closed node may be opened again.
-/

namespace Aimbots

/-- The state of a label-correcting search. -/
@[ext] structure Labels (N K : Type*) where
  label : N → Option K
  parent : N → Option N
  opened : Set N

namespace Labels

variable {N K : Type*}

/-- `u` is the parent of `v`. -/
def IsParent (L : Labels N K) (u v : N) : Prop := L.parent v = some u

/-- The label `t` is better than the one `v` has, if it has one. -/
def Improves [LT K] (L : Labels N K) (v : N) (t : K) : Prop := ∀ y, L.label v = some y → t < y

/-- Before the search: only `start` is labelled, and it is open. -/
def init [Zero K] [DecidableEq N] (start : N) : Labels N K where
  label := Function.update (fun _ => none) start (some 0)
  parent := fun _ => none
  opened := {start}

/-- `v` gets the label `t` and the parent `u`, and is opened. -/
def relax [DecidableEq N] (L : Labels N K) (u v : N) (t : K) : Labels N K where
  label := Function.update L.label v (some t)
  parent := Function.update L.parent v (some u)
  opened := insert v L.opened

/-- `u` is closed. -/
def settle (L : Labels N K) (u : N) : Labels N K := { L with opened := L.opened \ {u} }

@[simp] theorem mem_opened_settle (L : Labels N K) (u v : N) :
    v ∈ (L.settle u).opened ↔ v ∈ L.opened ∧ v ≠ u := by
  simp [settle]

section Relax

variable [DecidableEq N] (L : Labels N K) (u v : N) (t : K)

@[simp] theorem label_relax_self : (L.relax u v t).label v = some t := Function.update_self ..

@[simp] theorem label_relax_of_ne {w : N} (h : w ≠ v) : (L.relax u v t).label w = L.label w :=
  Function.update_of_ne h ..

@[simp] theorem parent_relax_self : (L.relax u v t).parent v = some u := Function.update_self ..

@[simp] theorem parent_relax_of_ne {w : N} (h : w ≠ v) : (L.relax u v t).parent w = L.parent w :=
  Function.update_of_ne h ..

@[simp] theorem mem_opened_relax (w : N) :
    w ∈ (L.relax u v t).opened ↔ w = v ∨ w ∈ L.opened := Iff.rfl

/-- A chain of parents after `relax` either was one before, or passes through the new parent and
its child. -/
theorem transGen_relax {a b : N}
    (h : Relation.TransGen (L.relax u v t).IsParent a b) :
    Relation.TransGen L.IsParent a b ∨
      (Relation.ReflTransGen L.IsParent a u ∧ Relation.ReflTransGen L.IsParent v b) := by
  have edge : ∀ {x y}, (L.relax u v t).IsParent x y → (x = u ∧ y = v) ∨ L.IsParent x y := by
    intro x y hxy
    by_cases hy : y = v
    · subst hy
      exact Or.inl ⟨by simpa [IsParent, eq_comm] using hxy, rfl⟩
    · exact Or.inr (by simpa [IsParent, hy] using hxy)
  induction h with
  | single hab =>
    rcases edge hab with ⟨rfl, rfl⟩ | hab
    · exact Or.inr ⟨.refl, .refl⟩
    · exact Or.inl (.single hab)
  | tail _ hbc ih =>
    rcases edge hbc with ⟨rfl, rfl⟩ | hbc
    · rcases ih with ih | ⟨ih, -⟩
      · exact Or.inr ⟨ih.to_reflTransGen, .refl⟩
      · exact Or.inr ⟨ih, .refl⟩
    · rcases ih with ih | ⟨ih, ih'⟩
      · exact Or.inl (ih.tail hbc)
      · exact Or.inr ⟨ih, ih'.tail hbc⟩

end Relax

variable [AddCommGroup K] [LinearOrder K]

/-- The label `x` of `v` is the cost of a walk without repetition, along which no label is
greater than `x`. -/
def Witnessed (E : N → N → Prop) (c : N → N → K) (start : N) (L : Labels N K) (v : N) (x : K) :
    Prop :=
  ∃ p, Walk E start v p ∧ p.Nodup ∧ cost c p = x ∧ ∀ y ∈ p, ∃ g, L.label y = some g ∧ g ≤ x

/-- The invariant of the search. -/
structure Inv (E : N → N → Prop) (c : N → N → K) (start : N) (W : N → N → Prop)
    (L : Labels N K) : Prop where
  start_label : L.label start = some 0
  start_parent : L.parent start = none
  root : ∀ v x, L.label v = some x → L.parent v = none → v = start
  parent_label : ∀ u v, L.parent v = some u →
    E u v ∧ ∃ x y, L.label u = some x ∧ L.label v = some y ∧ x + c u v ≤ y
  acyclic : ∀ v, ¬ Relation.TransGen L.IsParent v v
  witness : ∀ v x, L.label v = some x → Witnessed E c start L v x
  opened_label : ∀ v ∈ L.opened, ∃ x, L.label v = some x
  relaxed : ∀ u v x, L.label u = some x → u ∉ L.opened → E u v → ¬ W u v →
    ∃ y, L.label v = some y ∧ y ≤ x + c u v

/-- All edges out of closed nodes are relaxed. -/
abbrev nowhere : N → N → Prop := fun _ _ => False

variable {E : N → N → Prop} {c : N → N → K} {start : N} {W W' : N → N → Prop} {L : Labels N K}

omit [AddCommGroup K] in
/-- A step that improves a label makes none greater. -/
theorem Improves.label_relax_le [DecidableEq N] {v w : N} {t g : K} (hv : L.Improves v t) (u : N)
    (hg : L.label w = some g) : ∃ g', (L.relax u v t).label w = some g' ∧ g' ≤ g := by
  by_cases hw : w = v
  · subst hw; exact ⟨t, by simp, (hv g hg).le⟩
  · exact ⟨g, by simpa [hw] using hg, le_rfl⟩

theorem Witnessed.relax [DecidableEq N] {v w : N} {t x : K} (h : Witnessed E c start L w x)
    (u : N) (hv : L.Improves v t) : Witnessed E c start (L.relax u v t) w x := by
  obtain ⟨p, hp, hnd, hcost, hle⟩ := h
  refine ⟨p, hp, hnd, hcost, fun z hz => ?_⟩
  obtain ⟨g, hg, hgx⟩ := hle z hz
  obtain ⟨g', hg', hle'⟩ := hv.label_relax_le u hg
  exact ⟨g', hg', hle'.trans hgx⟩

theorem inv_init [DecidableEq N] : (init start : Labels N K).Inv E c start nowhere := by
  have label_eq : ∀ {v : N} {x : K}, (init start : Labels N K).label v = some x →
      v = start ∧ x = 0 := by
    intro v x h
    by_cases hv : v = start
    · subst hv; simpa [init, eq_comm] using h
    · simp [init, hv] at h
  refine ⟨by simp [init], rfl, fun v x h _ => (label_eq h).1, fun u v h => by simp [init] at h,
    fun v h => ?_, fun v x h => ?_, fun v h => ⟨0, ?_⟩, fun u v x h hu => ?_⟩
  · obtain ⟨w, -, hw⟩ := Relation.TransGen.tail'_iff.1 h
    simp [IsParent, init] at hw
  · obtain ⟨rfl, rfl⟩ := label_eq h
    exact ⟨[v], .nil v, List.nodup_singleton v, rfl, by simp [init]⟩
  · rw [show v = start from h]; simp [init]
  · exact absurd (by rw [(label_eq h).1]; rfl : u ∈ (init start : Labels N K).opened) hu

/-- Closing a node leaves its own edges to be relaxed. -/
theorem Inv.settle (h : L.Inv E c start W) (u : N) :
    (L.settle u).Inv E c start fun a b => W a b ∨ a = u :=
  { h with
    opened_label := fun v hv => h.opened_label v ((mem_opened_settle L u v).1 hv).1
    relaxed := fun a b x hx ha hE hW => by
      obtain ⟨hW, hau⟩ := not_or.1 hW
      exact h.relaxed a b x hx (fun hL => ha ((mem_opened_settle L u a).2 ⟨hL, hau⟩)) hE hW }

theorem Inv.mono (h : L.Inv E c start W) (hW : ∀ a b, E a b → W a b → W' a b) :
    L.Inv E c start W' :=
  { h with
    relaxed := fun a b x hx ha hE hW' => h.relaxed a b x hx ha hE fun hw => hW' (hW a b hE hw) }

/-- An edge whose end already has a label as good as the edge offers is relaxed. -/
theorem Inv.skip (h : L.Inv E c start W) {u v : N} {x : K} (hx : L.label u = some x)
    (hv : ¬ L.Improves v (x + c u v)) :
    L.Inv E c start fun a b => W a b ∧ ¬ (a = u ∧ b = v) := by
  obtain ⟨y, hy, hle⟩ : ∃ y, L.label v = some y ∧ y ≤ x + c u v := by
    simpa [Improves] using hv
  refine { h with relaxed := fun a b z hz ha hE hW => ?_ }
  by_cases hab : a = u ∧ b = v
  · obtain ⟨rfl, rfl⟩ := hab
    rw [hx] at hz
    exact ⟨y, hy, Option.some.inj hz ▸ hle⟩
  · exact h.relaxed a b z hz ha hE fun hw => hW ⟨hw, hab⟩

/-! ### What the invariant gives -/

/-- When no node is open, every reachable node is labelled. -/
theorem Inv.reachable_label (h : L.Inv E c start nowhere) (hopen : ∀ v, v ∉ L.opened) {v : N}
    (hv : Relation.ReflTransGen E start v) : ∃ x, L.label v = some x := by
  induction hv with
  | refl => exact ⟨0, h.start_label⟩
  | tail _ hE ih =>
    obtain ⟨x, hx⟩ := ih
    exact (h.relaxed _ _ x hx (hopen _) hE fun hW => hW).imp fun y hy => hy.1

/-- Labelled nodes are reachable. -/
theorem Inv.label_reachable (h : L.Inv E c start W) {v : N} {x : K} (hx : L.label v = some x) :
    Relation.ReflTransGen E start v :=
  (h.witness v x hx).elim fun _ hp => hp.1.reachable

/-- Where finitely many nodes are reachable, following the parents ends. -/
theorem Inv.parent_wellFounded (h : L.Inv E c start W)
    (hfin : {v | Relation.ReflTransGen E start v}.Finite) : WellFounded L.IsParent := by
  have hsub : ∀ {a b}, L.IsParent a b → a ∈ {v | Relation.ReflTransGen E start v} := by
    intro a b hab
    obtain ⟨-, x, -, hx, -⟩ := h.parent_label a b hab
    exact h.label_reachable hx
  have : IsStrictOrder N (Relation.TransGen L.IsParent) :=
    { irrefl := h.acyclic
      trans := fun _ _ _ => Relation.TransGen.trans }
  have hwf := hfin.wellFoundedOn (r := Relation.TransGen L.IsParent)
  rw [Set.wellFoundedOn_iff] at hwf
  refine ⟨fun b => ⟨b, fun a hab => ?_⟩⟩
  -- `a` is a parent, hence reachable, and so are all its ancestors
  have hacc := hwf.apply a
  have ha := hsub hab
  clear hab
  induction hacc with
  | intro a _ ih =>
    exact ⟨a, fun a' haa => ih a' ⟨.single haa, hsub haa, ha⟩ (hsub haa)⟩

/-- The walks without repetition that are better than the label of their last node. -/
def improvable (E : N → N → Prop) (c : N → N → K) (start : N) (L : Labels N K) : Set (List N) :=
  {p | p.Nodup ∧ ∃ v, Walk E start v p ∧ L.Improves v (cost c p)}

theorem finite_improvable (hfin : {v | Relation.ReflTransGen E start v}.Finite) :
    (improvable E c start L).Finite :=
  (Walk.finite_nodup hfin).subset fun _ ⟨hnd, v, hp, _⟩ => ⟨hnd, v, hp⟩

/-! ### Steps that use the order of the costs -/

variable [IsOrderedAddMonoid K] (hc : ∀ u v, E u v → 0 ≤ c u v)
include hc

theorem Inv.label_nonneg (h : L.Inv E c start W) {v : N} {x : K} (hx : L.label v = some x) :
    0 ≤ x := by
  obtain ⟨p, hp, -, rfl, -⟩ := h.witness v x hx
  exact cost_nonneg hc hp

/-- Labels do not decrease along the chains of parents. -/
theorem Inv.label_le (h : L.Inv E c start W) {a b : N} {y : K}
    (hab : Relation.ReflTransGen L.IsParent a b) (hy : L.label b = some y) :
    ∃ x, L.label a = some x ∧ x ≤ y := by
  induction hab generalizing y with
  | refl => exact ⟨y, hy, le_rfl⟩
  | tail _ hbc ih =>
    obtain ⟨hE, x, y', hx, hy', hle⟩ := h.parent_label _ _ hbc
    obtain rfl : y' = y := by rw [hy] at hy'; exact (Option.some.inj hy').symm
    obtain ⟨z, hz, hzx⟩ := ih hx
    exact ⟨z, hz, hzx.trans ((le_add_of_nonneg_right (hc _ _ hE)).trans hle)⟩

/-- The end of an edge that improves its label is neither the start nor the edge's own source. -/
theorem Inv.ne_of_improves (h : L.Inv E c start W) {u v : N} {x : K} (hx : L.label u = some x)
    (hE : E u v) (hv : L.Improves v (x + c u v)) : v ≠ start ∧ v ≠ u := by
  have hle : x ≤ x + c u v := le_add_of_nonneg_right (hc u v hE)
  constructor
  · rintro rfl
    exact absurd (hv 0 h.start_label) (not_lt.2 ((h.label_nonneg hc hx).trans hle))
  · rintro rfl
    exact absurd (hv x hx) (not_lt.2 hle)

/-- The walk behind the label of `u`, prolonged by an edge that improves the label of its end. -/
theorem Inv.witness_snoc (h : L.Inv E c start W) {u v : N} {x : K} (hx : L.label u = some x)
    (hE : E u v) (hv : L.Improves v (x + c u v)) :
    ∃ p, Walk E start v p ∧ p.Nodup ∧ cost c p = x + c u v ∧
      ∀ y ∈ p, y = v ∨ ∃ g, L.label y = some g ∧ g ≤ x := by
  obtain ⟨p, hp, hnd, rfl, hle⟩ := h.witness u x hx
  refine ⟨p ++ [v], hp.snoc hE, ?_, cost_snoc c hp v, fun y hy => ?_⟩
  · refine List.nodup_append.2 ⟨hnd, List.nodup_singleton v, fun a ha b hb => ?_⟩
    rintro rfl
    obtain rfl := List.mem_singleton.1 hb
    obtain ⟨g, hg, hgx⟩ := hle a ha
    exact absurd (hv g hg) (not_lt.2 (hgx.trans (le_add_of_nonneg_right (hc _ _ hE))))
  · rcases List.mem_append.1 hy with hy | hy
    · exact Or.inr (hle y hy)
    · exact Or.inl (List.mem_singleton.1 hy)

/-- The label that `relax` gives is that of a walk, through labels that are no greater. -/
theorem Inv.witnessed_relax [DecidableEq N] (h : L.Inv E c start W) {u v : N} {x : K}
    (hx : L.label u = some x) (hE : E u v) (hv : L.Improves v (x + c u v)) :
    Witnessed E c start (L.relax u v (x + c u v)) v (x + c u v) := by
  obtain ⟨p, hp, hnd, hcost, hle⟩ := h.witness_snoc hc hx hE hv
  refine ⟨p, hp, hnd, hcost, fun z hz => ?_⟩
  rcases hle z hz with rfl | ⟨g, hg, hgx⟩
  · exact ⟨_, by simp, le_rfl⟩
  · obtain ⟨g', hg', hle'⟩ := hv.label_relax_le u hg
    exact ⟨g', hg', hle'.trans (hgx.trans (le_add_of_nonneg_right (hc u v hE)))⟩

/-- A step that would close a cycle of parents does not improve the label of its end. -/
theorem Inv.acyclic_relax [DecidableEq N] (h : L.Inv E c start W) {u v : N} {x : K}
    (hx : L.label u = some x) (hE : E u v) (hv : L.Improves v (x + c u v)) (w : N) :
    ¬ Relation.TransGen (L.relax u v (x + c u v)).IsParent w w := by
  intro hw
  -- a new cycle would run through `u` and `v`, so `v` would be an ancestor of `u`
  rcases transGen_relax L u v _ hw with hw | ⟨hwu, hvw⟩
  · exact h.acyclic w hw
  · obtain ⟨g, hg, hgx⟩ := h.label_le hc (hvw.trans hwu) hx
    exact absurd (hv g hg) (not_lt.2 (hgx.trans (le_add_of_nonneg_right (hc u v hE))))

/-- **`relax` keeps the invariant** and relaxes the edge it uses. -/
theorem Inv.relax [DecidableEq N] (h : L.Inv E c start W) {u v : N} {x : K}
    (hx : L.label u = some x) (hE : E u v) (hv : L.Improves v (x + c u v)) :
    (L.relax u v (x + c u v)).Inv E c start fun a b => W a b ∧ ¬ (a = u ∧ b = v) := by
  obtain ⟨hstart, hu⟩ := h.ne_of_improves hc hx hE hv
  refine ⟨?_, ?_, ?_, ?_, h.acyclic_relax hc hx hE hv, ?_, ?_, ?_⟩
  · simpa [Ne.symm hstart] using h.start_label
  · simpa [Ne.symm hstart] using h.start_parent
  · intro w y hy hp
    by_cases hw : w = v
    · subst hw; simp at hp
    · exact h.root w y (by simpa [hw] using hy) (by simpa [hw] using hp)
  · intro a b hab
    by_cases hb : b = v
    · subst hb
      obtain rfl : u = a := by simpa using hab
      exact ⟨hE, x, _, by simpa [Ne.symm hu] using hx, by simp, le_rfl⟩
    · obtain ⟨hE', y, z, hy, hz, hle⟩ := h.parent_label a b (by simpa [hb] using hab)
      obtain ⟨y', hy', hyy⟩ := hv.label_relax_le u hy
      exact ⟨hE', y', z, hy', by simpa [hb] using hz, (add_le_add_left hyy _).trans hle⟩
  · intro w y hy
    by_cases hw : w = v
    · subst hw
      obtain rfl : x + c u w = y := by simpa using hy
      exact h.witnessed_relax hc hx hE hv
    · exact (h.witness w y (by simpa [hw] using hy)).relax u hv
  · rintro w (rfl | hw)
    · exact ⟨_, label_relax_self ..⟩
    · obtain ⟨g, hg⟩ := h.opened_label w hw
      exact (hv.label_relax_le u hg).imp fun g' hg' => hg'.1
  · intro a b y hy ha hE' hW
    obtain ⟨hav, haL⟩ := not_or.1 ha
    rw [label_relax_of_ne _ _ _ _ hav] at hy
    by_cases hab : a = u ∧ b = v
    · obtain ⟨rfl, rfl⟩ := hab
      rw [hx] at hy
      exact ⟨_, label_relax_self .., by rw [← Option.some.inj hy]⟩
    · obtain ⟨z, hz, hle⟩ := h.relaxed a b y hy haL hE' fun hw => hW ⟨hw, hab⟩
      obtain ⟨z', hz', hle'⟩ := hv.label_relax_le u hz
      exact ⟨z', hz', hle'.trans hle⟩

omit hc in
/-- **The frontier lemma**: a walk into an open node passes through an open node whose label is no
worse than the walk up to it. -/
theorem Inv.exists_opened (h : L.Inv E c start nowhere) {v w : N} {p : List N} {x : K}
    (hp : Walk E v w p) (hx : L.label v = some x) (hw : w ∈ L.opened) :
    ∃ y q g, y ∈ L.opened ∧ Walk E y w q ∧ L.label y = some g ∧
      g + cost c q ≤ x + cost c p := by
  induction hp generalizing x with
  | nil u => exact ⟨u, [u], x, hw, .nil u, hx, le_rfl⟩
  | @cons u v w p hE hp ih =>
    by_cases hu : u ∈ L.opened
    · exact ⟨u, _, x, hu, .cons hE hp, hx, le_rfl⟩
    · obtain ⟨y, hy, hle⟩ := h.relaxed u v x hx hu hE (fun hW => hW)
      obtain ⟨z, q, g, hz, hq, hg, hle'⟩ := ih hy hw
      refine ⟨z, q, g, hz, hq, hg, hle'.trans ?_⟩
      rw [cost_cons c hp, ← add_assoc]
      exact add_le_add_left hle _

/-- Each `relax` leaves fewer walks that would improve a label. -/
theorem Inv.ncard_improvable_relax [DecidableEq N] (h : L.Inv E c start W)
    (hfin : {v | Relation.ReflTransGen E start v}.Finite) {u v : N} {x : K}
    (hx : L.label u = some x) (hE : E u v) (hv : L.Improves v (x + c u v)) :
    (improvable E c start (L.relax u v (x + c u v))).ncard < (improvable E c start L).ncard := by
  refine Set.ncard_lt_ncard ?_ (finite_improvable hfin)
  refine Set.ssubset_iff_of_subset ?_ |>.2 ?_
  · rintro p ⟨hnd, w, hp, himp⟩
    refine ⟨hnd, w, hp, fun y hy => ?_⟩
    by_cases hw : w = v
    · subst hw
      exact (himp _ (by simp)).trans (hv y hy)
    · exact himp y (by simpa [hw] using hy)
  · obtain ⟨p, hp, hnd, hcost, -⟩ := h.witness_snoc hc hx hE hv
    refine ⟨p, ⟨hnd, v, hp, by rwa [hcost]⟩, ?_⟩
    rintro ⟨-, w, hp', himp⟩
    obtain rfl : w = v := by
      have := hp'.getLast.symm.trans hp.getLast
      exact Option.some.inj this
    exact absurd (himp _ (label_relax_self ..)) (by rw [hcost]; exact lt_irrefl _)

end Labels

end Aimbots
