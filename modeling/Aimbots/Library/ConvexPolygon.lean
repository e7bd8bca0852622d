import Mathlib.Analysis.Convex.Topology
import Mathlib.Analysis.LocallyConvex.Separation
import Mathlib.Order.CompletePartialOrder
import Mathlib.Tactic.LinearCombination
import Mathlib.Tactic.Linarith

/-!
# Convex polygons in the plane

A polygon is a finite family of vertices `v` with a successor `next`; its sides lead from `v i` to
`v (next i)`.  It is convex if it lies on one side of the line through each of its sides and no
three consecutive vertices are collinear, and its region is the convex hull of the vertices.

* `mem_region_iff`: the region is the intersection of half-planes, one for each side;
* `height_pos_of_mem_interior`: the interior lies strictly inside them;
* `exists_entry`: on the way from outside to a point of the region, a side is met.
-/

namespace Aimbots

/-- Twice the signed area of the triangle `a`, `b`, `c`: positive if it turns left. -/
def orient {K : Type*} [CommRing K] (a b c : K × K) : K :=
  (b.1 - a.1) * (c.2 - a.2) - (b.2 - a.2) * (c.1 - a.1)

section Orient

variable {K : Type*} [CommRing K] (a b c d : K × K)

@[simp] theorem orient_self_left : orient a b a = 0 := by rw [orient]; ring

@[simp] theorem orient_self_right : orient a b b = 0 := by rw [orient]; ring

theorem orient_rotate : orient b c a = orient a b c := by rw [orient, orient]; ring

/-- Along a line, `orient a b` is affine. -/
theorem orient_combo {s t : K} (h : s + t = 1) :
    orient a b (s • c + t • d) = s * orient a b c + t * orient a b d := by
  obtain rfl : s = 1 - t := eq_sub_of_add_eq h
  simp only [orient, Prod.fst_add, Prod.snd_add, Prod.smul_fst, Prod.smul_snd, smul_eq_mul]
  ring

/-- Cramer's rule for `d - a` over the sides of the triangle at `a`. -/
theorem orient_smul_sub :
    orient a b c • (d - a) = orient c a d • (b - a) + orient a b d • (c - a) := by
  ext <;>
    simp only [orient, Prod.fst_add, Prod.snd_add, Prod.smul_fst, Prod.smul_snd, Prod.fst_sub,
      Prod.snd_sub, smul_eq_mul] <;>
    ring

end Orient

/-- A polygon that is convex. -/
structure IsConvexPolygon {ι : Type*} (v : ι → ℝ × ℝ) (next : Equiv.Perm ι) : Prop where
  one_side : ∀ i, (∀ j, 0 ≤ orient (v i) (v (next i)) (v j)) ∨
    ∀ j, orient (v i) (v (next i)) (v j) ≤ 0
  not_collinear : ∀ i, orient (v i) (v (next i)) (v (next (next i))) ≠ 0

namespace ConvexPolygon

variable {ι : Type*} {v : ι → ℝ × ℝ} {next : Equiv.Perm ι}

/-- The closed region that a polygon bounds. -/
def region (v : ι → ℝ × ℝ) : Set (ℝ × ℝ) := convexHull ℝ (Set.range v)

/-- How far `x` is on the polygon's side of the line through side `i`, up to a positive factor. -/
noncomputable def height (v : ι → ℝ × ℝ) (next : Equiv.Perm ι) (i : ι) (x : ℝ × ℝ) : ℝ :=
  orient (v i) (v (next i)) (v (next (next i))) * orient (v i) (v (next i)) x

theorem height_combo (i : ι) (x y : ℝ × ℝ) {s t : ℝ} (h : s + t = 1) :
    height v next i (s • x + t • y) = s * height v next i x + t * height v next i y := by
  rw [height, height, height, orient_combo _ _ _ _ h]
  ring

@[simp] theorem height_vertex (i : ι) : height v next i (v i) = 0 := by simp [height]

@[simp] theorem height_next (i : ι) : height v next i (v (next i)) = 0 := by simp [height]

/-! ### The half-planes of the sides -/

theorem vertex_mem_region (i : ι) : v i ∈ region v := subset_convexHull ℝ _ ⟨i, rfl⟩

theorem convex_region : Convex ℝ (region v) := convex_convexHull ℝ _

theorem segment_subset_region (i j : ι) : segment ℝ (v i) (v j) ⊆ region v :=
  convex_region.segment_subset (vertex_mem_region i) (vertex_mem_region j)

/-- Two numbers with the sign of a third one, which is not zero, have one sign. -/
theorem mul_nonneg_of_mul_pos {x y z : ℝ} (hpos : 0 < x * y) (hz : 0 ≤ x * z) : 0 ≤ y * z := by
  rcases pos_and_pos_or_neg_and_neg_of_mul_pos hpos with ⟨hx, hy⟩ | ⟨hx, hy⟩
  · exact mul_nonneg hy.le ((mul_nonneg_iff_of_pos_left hx).1 hz)
  · exact mul_nonneg_of_nonpos_of_nonpos hy.le (nonpos_of_mul_nonneg_right hz hx)

section

variable (h : IsConvexPolygon v next)
include h

theorem height_vertex_nonneg (i j : ι) : 0 ≤ height v next i (v j) := by
  rcases h.one_side i with hside | hside
  · exact mul_nonneg (hside _) (hside j)
  · exact mul_nonneg_of_nonpos_of_nonpos (hside _) (hside j)

theorem height_next_next_pos (i : ι) : 0 < height v next i (v (next (next i))) :=
  mul_self_pos.2 (h.not_collinear i)

/-- Also the vertex before a side is strictly inside its half-plane. -/
theorem height_prev_pos (i : ι) : 0 < height v next i (v (next.symm i)) := by
  refine lt_of_le_of_ne (height_vertex_nonneg h i _) (Ne.symm (mul_ne_zero (h.not_collinear i) ?_))
  have hprev := h.not_collinear (next.symm i)
  rwa [Equiv.apply_symm_apply, ← orient_rotate] at hprev

theorem height_nonneg_of_mem {x : ℝ × ℝ} (hx : x ∈ region v) (i : ι) : 0 ≤ height v next i x := by
  have hconvex : Convex ℝ {x | 0 ≤ height v next i x} := by
    intro x hx y hy s t hs ht hst
    show 0 ≤ height v next i (s • x + t • y)
    rw [height_combo i x y hst]
    exact add_nonneg (mul_nonneg hs hx) (mul_nonneg ht hy)
  refine convexHull_min ?_ hconvex hx
  rintro _ ⟨j, rfl⟩
  exact height_vertex_nonneg h i j

/-- A point on the inner sides of the two lines through a vertex lies in the cone of the sides
there: a functional that is least at this vertex is not less at the point. -/
theorem le_of_height_nonneg (f : (ℝ × ℝ) →ₗ[ℝ] ℝ) {i : ι} (hmin : ∀ j, f (v i) ≤ f (v j))
    {x : ℝ × ℝ} (hx : ∀ i, 0 ≤ height v next i x) : f (v i) ≤ f x := by
  have hprev := hx (next.symm i)
  have hpos := height_prev_pos h i
  have hthis := hx i
  simp only [height, Equiv.apply_symm_apply] at hprev hpos hthis
  rw [← orient_rotate] at hprev
  have hcramer := congrArg f (orient_smul_sub (v i) (v (next i)) (v (next.symm i)) x)
  simp only [map_add, map_smul, map_sub, smul_eq_mul] at hcramer
  generalize orient (v i) (v (next i)) (v (next.symm i)) = D at *
  -- both coefficients have the sign of the determinant
  have hD : 0 < D * D := mul_self_pos.2 (right_ne_zero_of_mul hpos.ne')
  have hcoeff := mul_nonneg_of_mul_pos hpos hthis
  have hmul : 0 ≤ D * D * (f x - f (v i)) := by
    have hnext := mul_nonneg hprev (sub_nonneg.2 (hmin (next i)))
    have hback := mul_nonneg hcoeff (sub_nonneg.2 (hmin (next.symm i)))
    calc 0 ≤ D * orient (v (next.symm i)) (v i) x * (f (v (next i)) - f (v i)) +
            D * orient (v i) (v (next i)) x * (f (v (next.symm i)) - f (v i)) :=
          add_nonneg hnext hback
      _ = D * D * (f x - f (v i)) := by linear_combination -D * hcramer
  exact sub_nonneg.1 ((mul_nonneg_iff_of_pos_left hD).1 hmul)

/-- **The region is the intersection of the half-planes of the sides.** -/
theorem mem_region_iff [Finite ι] [Nonempty ι] {x : ℝ × ℝ} :
    x ∈ region v ↔ ∀ i, 0 ≤ height v next i x := by
  refine ⟨height_nonneg_of_mem h, fun hx => ?_⟩
  by_contra hmem
  obtain ⟨f, u, hfx, hfu⟩ := geometric_hahn_banach_point_closed convex_region
    ((Set.finite_range v).isClosed_convexHull ℝ) hmem
  obtain ⟨i, hi⟩ := Finite.exists_min fun j => f (v j)
  have hle := le_of_height_nonneg h (f : (ℝ × ℝ) →ₗ[ℝ] ℝ) hi hx
  exact absurd (hfu _ (vertex_mem_region i)) (not_lt.2 (hle.trans hfx.le))

/-- A point of the interior is strictly inside every half-plane. -/
theorem height_pos_of_mem_interior {x : ℝ × ℝ} (hx : x ∈ interior (region v)) (i : ι) :
    0 < height v next i x := by
  -- a little beyond `x`, seen from a vertex inside the half-plane, is still in the region
  have hcont : Continuous fun s : ℝ => (1 + s) • x + (-s) • v (next (next i)) := by fun_prop
  have hnhds : ∀ᶠ s in nhds (0 : ℝ), (1 + s) • x + (-s) • v (next (next i)) ∈ region v := by
    refine hcont.continuousAt.eventually_mem ?_
    simpa using mem_interior_iff_mem_nhds.1 hx
  have hright : ∀ᶠ s in nhdsWithin (0 : ℝ) (Set.Ioi 0),
      (1 + s) • x + (-s) • v (next (next i)) ∈ region v := hnhds.filter_mono nhdsWithin_le_nhds
  obtain ⟨s, hmem, hs⟩ := (hright.and self_mem_nhdsWithin).exists
  have hs : 0 < s := hs
  have hbeyond := height_nonneg_of_mem h hmem i
  rw [height_combo _ _ _ (by ring)] at hbeyond
  have hvertex := mul_pos hs (height_next_next_pos h i)
  have hscaled : 0 < (1 + s) * height v next i x := by linarith
  exact (pos_iff_pos_of_mul_pos hscaled).1 (by linarith)

/-! ### The sides -/

/-- No point of a side is in the interior. -/
theorem disjoint_side_interior (i : ι) :
    Disjoint (segment ℝ (v i) (v (next i))) (interior (region v)) := by
  rw [Set.disjoint_left]
  rintro _ ⟨s, t, -, -, hst, rfl⟩ hx
  have hpos := height_pos_of_mem_interior h hx i
  rw [height_combo _ _ _ hst, height_vertex, height_next, mul_zero, mul_zero, add_zero] at hpos
  exact lt_irrefl 0 hpos

/-- A point of the region on the line through a side is on the side. -/
theorem exists_of_height_eq_zero {i : ι} {x : ℝ × ℝ} (hzero : height v next i x = 0)
    (hx : ∀ j, 0 ≤ height v next j x) :
    ∃ t : ℝ, 0 ≤ t ∧ t ≤ 1 ∧ x = (1 - t) • v i + t • v (next i) := by
  have hprev := hx (next.symm i)
  have hpos := height_prev_pos h i
  simp only [height, Equiv.apply_symm_apply] at hprev hpos
  rw [← orient_rotate] at hprev
  have hline : orient (v i) (v (next i)) x = 0 :=
    (mul_eq_zero.1 hzero).resolve_left (h.not_collinear i)
  have hcramer := orient_smul_sub (v i) (v (next i)) (v (next.symm i)) x
  rw [hline, zero_smul, add_zero] at hcramer
  have hD : orient (v i) (v (next i)) (v (next.symm i)) ≠ 0 := right_ne_zero_of_mul hpos.ne'
  generalize orient (v i) (v (next i)) (v (next.symm i)) = D at *
  generalize orient (v (next.symm i)) (v i) x = P at *
  have hcombo : x = (1 - P / D) • v i + (P / D) • v (next i) := by
    have hsub : x - v i = (P / D) • (v (next i) - v i) := by
      rw [div_eq_inv_mul, mul_smul, ← hcramer, smul_smul, inv_mul_cancel₀ hD, one_smul]
    rw [← sub_add_cancel x (v i), hsub]
    module
  refine ⟨P / D, ?_, ?_, hcombo⟩
  · rw [← mul_div_mul_left P D hD]
    exact div_nonneg hprev (mul_self_nonneg D)
  · -- beyond `v (next i)` the line leaves the half-plane of the next side
    have hnext := hx (next i)
    have hpos := height_prev_pos h (next i)
    rw [Equiv.symm_apply_apply] at hpos
    rw [hcombo, height_combo _ _ _ (by ring), height_vertex, mul_zero, add_zero] at hnext
    linarith [(mul_nonneg_iff_of_pos_right hpos).1 hnext]

/-! ### Crossings -/

/-- **On the way from outside into the region a side is met**, at a point after the start. -/
theorem exists_entry [Finite ι] [Nonempty ι] {a x : ℝ × ℝ} (ha : a ∉ region v)
    (hx : x ∈ region v) :
    ∃ (i : ι) (s t : ℝ), 0 < s ∧ s ≤ 1 ∧ 0 ≤ t ∧ t ≤ 1 ∧
      (1 - s) • a + s • x = (1 - t) • v i + t • v (next i) ∧ height v next i a < 0 := by
  have hpos := height_nonneg_of_mem h hx
  have hout : {i | height v next i a < 0}.Nonempty := by
    by_contra hnone
    refine ha ((mem_region_iff h).2 fun i => ?_)
    by_contra hi
    exact hnone ⟨i, not_le.1 hi⟩
  -- where the segment enters the half-plane of a side that `a` is outside of; the last of them
  let enter : ι → ℝ := fun i => -height v next i a / (height v next i x - height v next i a)
  obtain ⟨i, hi, hlast⟩ := Set.exists_max_image _ enter (Set.toFinite _) hout
  have hi : height v next i a < 0 := hi
  have hden : ∀ j, height v next j a < 0 → 0 < height v next j x - height v next j a :=
    fun j hj => by linarith [hpos j]
  have henter : ∀ j, height v next j a < 0 →
      (1 - enter j) * height v next j a + enter j * height v next j x = 0 := by
    intro j hj
    have hne := (hden j hj).ne'
    simp only [enter]
    field_simp
    ring
  have hs0 : 0 < enter i := div_pos (neg_pos.2 hi) (hden i hi)
  have hs1 : enter i ≤ 1 := (div_le_one (hden i hi)).2 (by linarith [hpos i])
  obtain ⟨t, ht0, ht1, hside⟩ := exists_of_height_eq_zero h (i := i)
    (x := (1 - enter i) • a + enter i • x)
    (by rw [height_combo _ _ _ (by ring), henter i hi])
    (fun j => by
      rw [height_combo _ _ _ (by ring)]
      rcases lt_or_ge (height v next j a) 0 with hj | hj
      · have hle := mul_le_mul_of_nonneg_right (hlast j hj) (hden j hj).le
        linarith [henter j hj]
      · exact add_nonneg (mul_nonneg (by linarith) hj) (mul_nonneg hs0.le (hpos j)))
  exact ⟨i, enter i, t, hs0, hs1, ht0, ht1, hside, hi⟩

end

end ConvexPolygon

end Aimbots
