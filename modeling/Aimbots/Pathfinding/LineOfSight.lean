import Aimbots.Library.ConvexPolygon
import Aimbots.Pathfinding.VizGraph
import Mathlib.Tactic.FieldSimp

/-!
# What a line of sight rules out

`blocks` and `hasLOS` in terms of geometry.  Neither direction of a line makes a difference
(`hasLOS_comm`), and a line of sight that meets the interior of a convex polygon has both ends in
it (`mem_of_hasLOS`): one that enters or leaves crosses a side.
-/

namespace Aimbots.Pathfinding

section Field

variable {K : Type*} [Field K] {a b p q : Point K}

theorem determinant_eq (a b p q : Point K) :
    (b.1 - a.1) * (p.2 - q.2) - (p.1 - q.1) * (b.2 - a.2) = orient p q b - orient p q a := by
  rw [orient, orient]
  ring

variable [LinearOrder K]

/-- **A side blocks the sight** exactly if it is not parallel to the segment and they meet, strictly
between the ends of the segment. -/
theorem blocks_iff : blocks a b p q = true ↔ orient p q a ≠ orient p q b ∧
    ∃ s t : K, 0 < s ∧ s < 1 ∧ 0 ≤ t ∧ t ≤ 1 ∧ (1 - s) • a + s • b = (1 - t) • p + t • q := by
  have hdet := determinant_eq a b p q
  obtain ⟨x₁, y₁⟩ := a
  obtain ⟨x₂, y₂⟩ := b
  obtain ⟨x₃, y₃⟩ := p
  obtain ⟨x₄, y₄⟩ := q
  simp only at hdet
  simp only [blocks, one_div, Prod.smul_mk, Prod.mk_add_mk, Prod.mk.injEq, smul_eq_mul]
  split_ifs with hzero
  · rw [hdet] at hzero
    exact iff_of_false not_false fun h => h.1 (sub_eq_zero.1 hzero).symm
  · have hne : orient (x₃, y₃) (x₄, y₄) (x₁, y₁) ≠ orient (x₃, y₃) (x₄, y₄) (x₂, y₂) :=
      fun h => hzero (by rw [hdet, h, sub_self])
    rw [decide_eq_true_iff]
    constructor
    · rintro ⟨hs0, hs1, ht0, ht1⟩
      -- Cramer's rule, multiplied by the determinant
      have hs := mul_inv_cancel_left₀ hzero ((x₃ - x₁) * (y₃ - y₄) - (y₃ - y₁) * (x₃ - x₄))
      have ht := mul_inv_cancel_left₀ hzero ((x₂ - x₁) * (y₃ - y₁) - (y₂ - y₁) * (x₃ - x₁))
      refine ⟨hne, _, _, hs0, hs1, ht0, ht1, mul_left_cancel₀ hzero ?_, mul_left_cancel₀ hzero ?_⟩
      · linear_combination (x₂ - x₁) * hs - (x₄ - x₃) * ht
      · linear_combination (y₂ - y₁) * hs - (y₄ - y₃) * ht
    · rintro ⟨-, s, t, hs0, hs1, ht0, ht1, hx, hy⟩
      have hs : ((x₂ - x₁) * (y₃ - y₄) - (x₃ - x₄) * (y₂ - y₁))⁻¹ *
          ((x₃ - x₁) * (y₃ - y₄) - (y₃ - y₁) * (x₃ - x₄)) = s := by
        rw [inv_mul_eq_iff_eq_mul₀ hzero]
        linear_combination (x₃ - x₄) * hy - (y₃ - y₄) * hx
      have ht : ((x₂ - x₁) * (y₃ - y₄) - (x₃ - x₄) * (y₂ - y₁))⁻¹ *
          ((x₂ - x₁) * (y₃ - y₁) - (y₂ - y₁) * (x₃ - x₁)) = t := by
        rw [inv_mul_eq_iff_eq_mul₀ hzero]
        linear_combination (y₂ - y₁) * hx - (x₂ - x₁) * hy
      rw [hs, ht]
      exact ⟨hs0, hs1, ht0, ht1⟩

theorem blocks_comm [IsStrictOrderedRing K] (a b p q : Point K) :
    blocks b a p q = blocks a b p q := by
  have himp : ∀ a b : Point K, blocks a b p q = true → blocks b a p q = true := by
    intro a b h
    obtain ⟨hne, s, t, hs0, hs1, ht0, ht1, heq⟩ := blocks_iff.1 h
    refine blocks_iff.2 ⟨hne.symm, 1 - s, t, sub_pos.2 hs1, sub_lt_self 1 hs0, ht0, ht1, ?_⟩
    rw [sub_sub_cancel, add_comm, heq]
  exact Bool.eq_iff_iff.2 ⟨himp b a, himp a b⟩

/-- **A line of sight has no direction.** -/
theorem hasLOS_comm [IsStrictOrderedRing K] (a b : Point K) (polygons : List (List (Point K))) :
    hasLOS b a polygons = hasLOS a b polygons := by
  simp only [hasLOS, blocks_comm a b]

theorem blocks_eq_false_of_hasLOS {polygons : List (List (Point K))}
    (h : hasLOS a b polygons = true) {polygon : List (Point K)} (hmem : polygon ∈ polygons)
    (j : Fin polygon.length) : blocks a b (polygon.get j) (polygon.get (next j)) = false := by
  have hall := List.all_eq_true.1 (List.all_eq_true.1 h polygon hmem) j (List.mem_finRange j)
  rwa [Bool.not_eq_true'] at hall

end Field

/-! ### The edges of the visibility graph -/

section Edges

variable {K : Type*} [Field K] [LinearOrder K]

/-- The nodes are points of one polygon that follow each other, one way or the other. -/
def Consecutive {polygons : List (List (Point K))} (u v : Node polygons) : Prop :=
  ∃ (i : Fin polygons.length) (j : Fin (polygons.get i).length),
    (u = .vertex i j ∧ v = .vertex i (next j)) ∨ (u = .vertex i (next j) ∧ v = .vertex i j)

/-- The nodes are points of different polygons with a line of sight. -/
def SeesAcross {polygons : List (List (Point K))} (u v : Node polygons) : Prop :=
  ∃ (i x : Fin polygons.length) (j : Fin (polygons.get i).length)
    (y : Fin (polygons.get x).length), i ≠ x ∧ u = .vertex i j ∧ v = .vertex x y ∧
      hasLOS ((polygons.get i).get j) ((polygons.get x).get y) polygons = true

variable {polygons : List (List (Point K))} {u v : Node polygons}

omit [Field K] [LinearOrder K] in
theorem Consecutive.symm (h : Consecutive u v) : Consecutive v u := by
  obtain ⟨i, j, ⟨rfl, rfl⟩ | ⟨rfl, rfl⟩⟩ := h
  · exact ⟨i, j, .inr ⟨rfl, rfl⟩⟩
  · exact ⟨i, j, .inl ⟨rfl, rfl⟩⟩

variable [IsStrictOrderedRing K]

theorem SeesAcross.symm (h : SeesAcross u v) : SeesAcross v u := by
  obtain ⟨i, x, j, y, hne, rfl, rfl, hlos⟩ := h
  rw [← hasLOS_comm] at hlos
  exact ⟨x, i, y, j, hne.symm, rfl, rfl, hlos⟩

/-- Testing one direction of each pair of polygons is enough. -/
theorem adjacent_iff : Adjacent u v ↔ Consecutive u v ∨ SeesAcross u v := by
  constructor
  · intro h
    cases h with
    | next i j => exact .inl ⟨i, j, .inl ⟨rfl, rfl⟩⟩
    | prev i j => exact .inl ⟨i, j, .inr ⟨rfl, rfl⟩⟩
    | sight hlt hlos => exact .inr ⟨_, _, _, _, hlt.ne, rfl, rfl, hlos⟩
    | sightBack hlt hlos => exact .inr (SeesAcross.symm ⟨_, _, _, _, hlt.ne, rfl, rfl, hlos⟩)
  · rintro (⟨i, j, ⟨rfl, rfl⟩ | ⟨rfl, rfl⟩⟩ | ⟨i, x, j, y, hne, rfl, rfl, hlos⟩)
    · exact .next i j
    · exact .prev i j
    · rcases lt_or_gt_of_ne hne with hlt | hgt
      · exact .sight hlt hlos
      · rw [← hasLOS_comm] at hlos
        exact .sightBack hgt hlos

/-- **The adjacency of the visibility graph.**  A line of sight has no direction, and the neighbors
of a node are those that follow it or that it follows in its polygon, and those in other polygons
that it has a line of sight to; so the edges have no direction either. -/
theorem constructVizGraph_adjacency (polygons : List (List (Point K))) :
    (∀ a b : Point K, hasLOS a b polygons = hasLOS b a polygons) ∧
      ∀ u v : Node polygons,
        (v ∈ (constructVizGraph polygons).neighbors.vector u ↔
          Consecutive u v ∨ SeesAcross u v) ∧
        (v ∈ (constructVizGraph polygons).neighbors.vector u ↔
          u ∈ (constructVizGraph polygons).neighbors.vector v) := by
  refine ⟨fun a b => hasLOS_comm b a polygons, fun u v => ?_⟩
  rw [mem_constructVizGraph, mem_constructVizGraph, adjacent_iff, adjacent_iff]
  refine ⟨Iff.rfl, ?_, ?_⟩
  · exact Or.imp Consecutive.symm SeesAcross.symm
  · exact Or.imp Consecutive.symm SeesAcross.symm

/-- Two polygons of rational numbers, one of them not convex. -/
theorem constructVizGraph_adjacency_dart :
    let polygons : List (List (Point ℚ)) := [[(0, 0), (2, 1), (0, 2), (1, 1)], [(5, 0), (5, 1)]]
    (∀ a b : Point ℚ, hasLOS a b polygons = hasLOS b a polygons) ∧
      ∀ u v : Node polygons,
        (v ∈ (constructVizGraph polygons).neighbors.vector u ↔
          Consecutive u v ∨ SeesAcross u v) ∧
        (v ∈ (constructVizGraph polygons).neighbors.vector u ↔
          u ∈ (constructVizGraph polygons).neighbors.vector v) :=
  constructVizGraph_adjacency _

end Edges

/-! ### Convex polygons -/

/-- The points of a polygon follow each other in a circle. -/
theorem finRotate_eq_next {n : ℕ} (j : Fin n) : finRotate n j = next j := by
  cases n with
  | zero => exact j.elim0
  | succ n =>
    obtain ⟨j, hj⟩ := j
    rw [next]
    split_ifs with hlt
    · exact finRotate_of_lt (Nat.lt_of_succ_lt_succ hlt)
    · have hle : ¬ j + 1 < n + 1 := hlt
      obtain rfl : j = n := by omega
      exact finRotate_last'

/-- A closed convex polygon: at least three points, all on one side of the line through each side,
no three consecutive ones collinear. -/
structure IsPolygon (polygon : List (Point ℝ)) : Prop where
  three_le : 3 ≤ polygon.length
  convex : IsConvexPolygon polygon.get (finRotate polygon.length)

/-- The closed region of a polygon. -/
def region (polygon : List (Point ℝ)) : Set (Point ℝ) := ConvexPolygon.region polygon.get

theorem IsPolygon.nonempty {polygon : List (Point ℝ)} (h : IsPolygon polygon) :
    Nonempty (Fin polygon.length) := ⟨⟨0, by have := h.three_le; omega⟩⟩

/-- A triangle that turns left is a convex polygon. -/
theorem isPolygon_triangle {a b c : Point ℝ} (h : 0 < orient a b c) : IsPolygon [a, b, c] := by
  have hbca : 0 < orient b c a := by rwa [orient_rotate]
  have hcab : 0 < orient c a b := by rwa [orient_rotate]
  refine ⟨le_rfl, fun i => Or.inl fun j => ?_, fun i => ?_⟩
  · fin_cases i <;> fin_cases j <;> simp [h.le, hbca.le, hcab.le]
  · fin_cases i <;> simp [h.ne', hbca.ne', hcab.ne']

theorem region_subset {polygon : List (Point ℝ)} {s : Set (Point ℝ)} (hs : Convex ℝ s)
    (h : ∀ p ∈ polygon, p ∈ s) : region polygon ⊆ s := by
  refine convexHull_min ?_ hs
  rintro _ ⟨j, rfl⟩
  exact h _ (List.get_mem ..)

section Sight

variable {polygons : List (List (Point ℝ))} {polygon : List (Point ℝ)} {a b x : Point ℝ}

/-- A line of sight does not enter a polygon, short of its end. -/
theorem disjoint_openSegment_of_hasLOS (hpolygon : IsPolygon polygon) (hmem : polygon ∈ polygons)
    (hlos : hasLOS a b polygons = true) (ha : a ∉ region polygon) :
    Disjoint (openSegment ℝ a b) (region polygon) := by
  have := hpolygon.nonempty
  rw [Set.disjoint_left]
  rintro _ ⟨u, w, hu, hw0, huw, rfl⟩ hx
  obtain rfl : u = 1 - w := eq_sub_of_add_eq huw
  obtain ⟨i, s, t, hs0, hs1, ht0, ht1, hentry, hheight⟩ :=
    ConvexPolygon.exists_entry hpolygon.convex ha hx
  have hpoint : (1 - s) • a + s • ((1 - w) • a + w • b) = (1 - s * w) • a + (s * w) • b := by
    module
  rw [hpoint] at hentry
  have hblocks : blocks a b (polygon.get i) (polygon.get (next i)) = true := by
    rw [← finRotate_eq_next]
    refine blocks_iff.2 ⟨fun heq => ?_, s * w, t, mul_pos hs0 hw0, ?_, ht0, ht1, hentry⟩
    · -- along a parallel segment the height would not change, and on the side it is none
      have hzero := congrArg (ConvexPolygon.height polygon.get (finRotate polygon.length) i) hentry
      rw [ConvexPolygon.height_combo i a b (by ring), ConvexPolygon.height_combo i _ _ (by ring),
        ConvexPolygon.height_vertex, ConvexPolygon.height_next, ConvexPolygon.height,
        ConvexPolygon.height, ← heq, ← add_mul, sub_add_cancel, one_mul] at hzero
      rw [ConvexPolygon.height, hzero] at hheight
      simp at hheight
    · exact mul_lt_one_of_nonneg_of_lt_one_right hs1 hw0.le (by linarith)
  exact Bool.false_ne_true ((blocks_eq_false_of_hasLOS hlos hmem i).symm.trans hblocks)

theorem left_mem_of_hasLOS (hpolygon : IsPolygon polygon) (hmem : polygon ∈ polygons)
    (hlos : hasLOS a b polygons = true) (hx : x ∈ segment ℝ a b)
    (hint : x ∈ interior (region polygon)) : a ∈ region polygon := by
  by_contra ha
  -- points of the open segment are as close to `x` as one likes
  rw [← closure_openSegment] at hx
  obtain ⟨y, hyint, hy⟩ := mem_closure_iff.1 hx _ isOpen_interior hint
  exact Set.disjoint_left.1 (disjoint_openSegment_of_hasLOS hpolygon hmem hlos ha) hy
    (interior_subset hyint)

/-- **A line of sight that meets the interior of a convex polygon has both ends in the polygon.** -/
theorem mem_of_hasLOS (hpolygon : IsPolygon polygon) (hmem : polygon ∈ polygons)
    (hlos : hasLOS a b polygons = true)
    (hmeet : ¬ Disjoint (segment ℝ a b) (interior (region polygon))) :
    a ∈ region polygon ∧ b ∈ region polygon := by
  obtain ⟨x, hx, hint⟩ := Set.not_disjoint_iff.1 hmeet
  refine ⟨left_mem_of_hasLOS hpolygon hmem hlos hx hint, ?_⟩
  rw [← hasLOS_comm] at hlos
  rw [segment_symm] at hx
  exact left_mem_of_hasLOS hpolygon hmem hlos hx hint

/-- A side that blocks the sight has a point in common with the open segment. -/
theorem not_disjoint_of_blocks {j : Fin polygon.length}
    (hblocks : blocks a b (polygon.get j) (polygon.get (next j)) = true) :
    ¬ Disjoint (openSegment ℝ a b) (region polygon) := by
  obtain ⟨-, s, t, hs0, hs1, ht0, ht1, hpoint⟩ := blocks_iff.1 hblocks
  rw [Set.not_disjoint_iff]
  refine ⟨_, ⟨1 - s, s, sub_pos.2 hs1, hs0, sub_add_cancel 1 s, hpoint⟩, ?_⟩
  apply ConvexPolygon.segment_subset_region j (next j)
  exact ⟨1 - t, t, sub_nonneg.2 ht1, ht0, sub_add_cancel 1 t, rfl⟩

/-- **Line of sight is exact.**  Between two points that are not both in one of the polygons there
is a line of sight if and only if no point strictly between them is in a polygon. -/
theorem hasLOS_iff (hpolygons : ∀ polygon ∈ polygons, IsPolygon polygon)
    (hout : ∀ polygon ∈ polygons, ¬ (a ∈ region polygon ∧ b ∈ region polygon)) :
    hasLOS a b polygons = true ↔
      ∀ polygon ∈ polygons, Disjoint (openSegment ℝ a b) (region polygon) := by
  constructor
  · intro hlos polygon hmem
    by_cases ha : a ∈ region polygon
    · have hb : b ∉ region polygon := fun hb => hout polygon hmem ⟨ha, hb⟩
      rw [openSegment_symm]
      rw [← hasLOS_comm] at hlos
      exact disjoint_openSegment_of_hasLOS (hpolygons polygon hmem) hmem hlos hb
    · exact disjoint_openSegment_of_hasLOS (hpolygons polygon hmem) hmem hlos ha
  · intro hdisjoint
    apply List.all_eq_true.2
    intro polygon hmem
    apply List.all_eq_true.2
    intro j _
    rw [Bool.not_eq_true']
    by_contra hblocks
    exact not_disjoint_of_blocks (Bool.not_eq_false _ ▸ hblocks) (hdisjoint polygon hmem)

theorem hasLOS_iff_triangle :
    hasLOS (-1, 0) (-1, 1) [[((0 : ℝ), (0 : ℝ)), (1, 0), (0, 1)]] = true ↔
      ∀ polygon ∈ [[((0 : ℝ), (0 : ℝ)), (1, 0), (0, 1)]],
        Disjoint (openSegment ℝ (-1, 0) (-1, 1)) (region polygon) := by
  refine hasLOS_iff ?_ ?_
  · rintro _ (_ | ⟨_, ⟨⟩⟩)
    exact isPolygon_triangle (by norm_num [orient])
  · rintro _ (_ | ⟨_, ⟨⟩⟩) ⟨hleft, -⟩
    have hright : region [((0 : ℝ), (0 : ℝ)), (1, 0), (0, 1)] ⊆ Set.Ici 0 ×ˢ Set.univ :=
      region_subset ((convex_Ici 0).prod convex_univ) (by simp)
    have hnonneg : (0 : ℝ) ≤ -1 := (hright hleft).1
    linarith

end Sight

end Aimbots.Pathfinding
