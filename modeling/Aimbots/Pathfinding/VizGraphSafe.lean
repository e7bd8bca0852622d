import Aimbots.Pathfinding.AStarOptimal
import Aimbots.Pathfinding.LineOfSight

/-!
# Paths of the visibility graph do not cut through obstacles

Over the real numbers, with the Euclidean distance as cost.  An edge along a polygon stays on its
boundary, and one with a line of sight meets the interior of a polygon only if both its ends are in
it (`QueryEdge.safe`); two points of disjoint polygons never are.  So only `start` and `goal`
themselves can be inside an obstacle.
-/

namespace Aimbots.Pathfinding

variable {polygons : List (List (Point ℝ))} {start goal : Point ℝ}

/-- The cost functions that the constructor of `VizGraph` passes on. -/
noncomputable def distance (a b : Point ℝ) : ℝ :=
  √((a.1 - b.1) * (a.1 - b.1) + (a.2 - b.2) * (a.2 - b.2))

/-- The obstacles: convex polygons whose regions are disjoint. -/
structure IsObstacles (polygons : List (List (Point ℝ))) : Prop where
  polygon : ∀ polygon ∈ polygons, IsPolygon polygon
  disjoint : ∀ i j, i ≠ j → Disjoint (region (polygons.get i)) (region (polygons.get j))

/-- `start` and `goal`, and not a point of a polygon. -/
def Node.IsQuery (u : Node polygons) : Prop := u = .start ∨ u = .goal

/-- The legs of a path: its consecutive pairs. -/
def legs {α : Type*} (path : List α) : List (α × α) := path.zip path.tail

/-- The legs of the points behind a path of addresses. -/
theorem legs_map {α β : Type*} (f : α → β) (path : List α) :
    legs (path.map f) = (legs path).map (Prod.map f f) := by
  rw [legs, legs, ← List.map_tail, List.zip_map]

theorem vertex_mem_region (i : Fin polygons.length) (j : Fin (polygons.get i).length) :
    (polygons.get i).get j ∈ region (polygons.get i) :=
  ConvexPolygon.vertex_mem_region j

/-- An edge along a polygon meets the interior of no polygon. -/
theorem disjoint_side (h : IsObstacles polygons) (i x : Fin polygons.length)
    (j : Fin (polygons.get i).length) :
    Disjoint (segment ℝ ((polygons.get i).get j) ((polygons.get i).get (next j)))
      (interior (region (polygons.get x))) := by
  by_cases hix : i = x
  · subst hix
    rw [← finRotate_eq_next]
    exact ConvexPolygon.disjoint_side_interior (h.polygon _ (List.get_mem ..)).convex j
  · exact (h.disjoint i x hix).mono (ConvexPolygon.segment_subset_region j (next j))
      interior_subset

/-- A line of sight between points of two polygons meets the interior of no polygon. -/
theorem disjoint_sight (h : IsObstacles polygons) {i x : Fin polygons.length} (hix : i ≠ x)
    {j : Fin (polygons.get i).length} {y : Fin (polygons.get x).length}
    (hlos : hasLOS ((polygons.get i).get j) ((polygons.get x).get y) polygons = true)
    (z : Fin polygons.length) :
    Disjoint (segment ℝ ((polygons.get i).get j) ((polygons.get x).get y))
      (interior (region (polygons.get z))) := by
  by_contra hmeet
  obtain ⟨hi, hx⟩ := mem_of_hasLOS (h.polygon _ (List.get_mem ..)) (List.get_mem ..) hlos hmeet
  -- both polygons would share a point with the third
  have hiz : i = z := by
    by_contra hne
    exact Set.disjoint_left.1 (h.disjoint i z hne) (vertex_mem_region i j) hi
  have hxz : x = z := by
    by_contra hne
    exact Set.disjoint_left.1 (h.disjoint x z hne) (vertex_mem_region x y) hx
  exact hix (hiz.trans hxz.symm)

/-- **An edge that meets the interior of a polygon has `start` or `goal` as an end in it.** -/
theorem QueryEdge.safe (h : IsObstacles polygons) {u w : Node polygons}
    (hedge : QueryEdge start goal u w) {z : Fin polygons.length}
    (hmeet : ¬ Disjoint (segment ℝ (u.point start goal) (w.point start goal))
      (interior (region (polygons.get z)))) :
    (u.IsQuery ∧ u.point start goal ∈ region (polygons.get z)) ∨
      (w.IsQuery ∧ w.point start goal ∈ region (polygons.get z)) := by
  have hpolygon := h.polygon (polygons.get z) (List.get_mem ..)
  cases hedge with
  | graph hadj =>
    refine absurd ?_ hmeet
    cases hadj with
    | next i j => exact disjoint_side h i z j
    | prev i j =>
      rw [segment_symm]
      exact disjoint_side h i z j
    | sight hlt hlos => exact disjoint_sight h hlt.ne hlos z
    | sightBack hlt hlos =>
      rw [segment_symm]
      exact disjoint_sight h hlt.ne hlos z
  | start hlos =>
    exact Or.inl ⟨Or.inl rfl, (mem_of_hasLOS hpolygon (List.get_mem ..) hlos hmeet).1⟩
  | goal hlos =>
    rw [segment_symm] at hmeet
    exact Or.inr ⟨Or.inr rfl, (mem_of_hasLOS hpolygon (List.get_mem ..) hlos hmeet).1⟩
  | goalBack hlos =>
    exact Or.inl ⟨Or.inr rfl, (mem_of_hasLOS hpolygon (List.get_mem ..) hlos hmeet).1⟩

/-- What `search` returns: the points of `start`, `goal` if there is a line of sight, of nothing, or
of a walk from `start` to `goal`. -/
theorem search_cases (polygons : List (List (Point ℝ))) (start goal : Point ℝ) :
    ∃ (fuel₀ : ℕ) (nodes : List (Node polygons)) (graph : VizGraph polygons),
      (∀ fuel ≥ fuel₀, (constructVizGraph polygons).search distance fuel start goal =
        some (nodes.map (Node.point start goal), graph)) ∧
      ((hasLOS start goal polygons = true ∧ nodes = [.start, .goal]) ∨ nodes = [] ∨
        Walk (QueryEdge start goal) .start .goal nodes) := by
  by_cases hlos : hasLOS start goal polygons = true
  · refine ⟨0, [.start, .goal], constructVizGraph polygons, fun fuel _ => ?_, Or.inl ⟨hlos, rfl⟩⟩
    rw [VizGraph.search, if_pos hlos]
    rfl
  · let pathfinder : AStar (Node polygons) ℝ := {
      neighbors := VizGraph.addQuery start goal (constructVizGraph polygons).neighbors
      heuristic := fun a b => distance (a.point start goal) (b.point start goal)
      travelCost := fun a b => distance (a.point start goal) (b.point start goal) }
    obtain ⟨fuel₀, nodes, A', hsearch, -, -, -, hnodes⟩ :=
      AStar.search_spec (A := pathfinder) (fun u v _ => Real.sqrt_nonneg _) (Set.toFinite _)
        .start .goal
    refine ⟨fuel₀, nodes, { neighbors := VizGraph.removeQuery A'.neighbors },
      fun fuel hfuel => ?_, Or.inr ?_⟩
    · rw [VizGraph.search, if_neg hlos]
      show (pathfinder.search fuel .start .goal).map _ = _
      rw [hsearch fuel hfuel]
      rfl
    · rcases hnodes with ⟨hnil, -⟩ | ⟨hwalk, -⟩
      · exact Or.inl hnil
      · exact Or.inr (hwalk.mono fun u w hE => (mem_addQuery start goal u w).1 hE)

/-- A leg between two addresses meets the interior of a polygon only if one of them is `start` or
`goal`, and that point is in the polygon. -/
def LegSafe (start goal : Point ℝ) (leg : Node polygons × Node polygons) : Prop :=
  ∀ polygon ∈ polygons,
    ¬ Disjoint (segment ℝ (leg.1.point start goal) (leg.2.point start goal))
      (interior (region polygon)) →
    (leg.1.IsQuery ∧ leg.1.point start goal ∈ region polygon) ∨
      (leg.2.IsQuery ∧ leg.2.point start goal ∈ region polygon)

theorem legSafe_of_queryEdge (h : IsObstacles polygons) {leg : Node polygons × Node polygons}
    (hedge : QueryEdge start goal leg.1 leg.2) : LegSafe start goal leg := by
  intro polygon hmem hmeet
  obtain ⟨z, rfl⟩ := List.get_of_mem hmem
  exact hedge.safe h hmeet

theorem legSafe_of_hasLOS (h : IsObstacles polygons) (hlos : hasLOS start goal polygons = true) :
    LegSafe start goal ((.start, .goal) : Node polygons × Node polygons) :=
      fun polygon hmem hmeet =>
  Or.inl ⟨Or.inl rfl, (mem_of_hasLOS (h.polygon polygon hmem) hmem hlos hmeet).1⟩

/-- The path that `search` returns, as addresses: its ends and its legs. -/
theorem search_legSafe (h : IsObstacles polygons) (start goal : Point ℝ) :
    ∃ (fuel₀ : ℕ) (nodes : List (Node polygons)) (graph : VizGraph polygons),
      (∀ fuel ≥ fuel₀, (constructVizGraph polygons).search distance fuel start goal =
        some (nodes.map (Node.point start goal), graph)) ∧
      (nodes ≠ [] → nodes.head? = some .start ∧ nodes.getLast? = some .goal) ∧
      ∀ leg ∈ legs nodes, LegSafe start goal leg := by
  obtain ⟨fuel₀, nodes, graph, hsearch, hcases⟩ := search_cases polygons start goal
  refine ⟨fuel₀, nodes, graph, hsearch, ?_⟩
  rcases hcases with ⟨hlos, rfl⟩ | rfl | hwalk
  · refine ⟨fun _ => ⟨rfl, rfl⟩, fun leg hleg => ?_⟩
    obtain rfl : leg = (.start, .goal) := by simpa [legs] using hleg
    exact legSafe_of_hasLOS h hlos
  · exact ⟨fun hne => absurd rfl hne, fun leg hleg => absurd hleg List.not_mem_nil⟩
  · exact ⟨fun _ => ⟨hwalk.head, hwalk.getLast⟩,
      fun leg hleg => legSafe_of_queryEdge h (hwalk.edge_of_mem_zip leg hleg)⟩

theorem Node.IsQuery.point_eq {u : Node polygons} (h : u.IsQuery) :
    u.point start goal = start ∨ u.point start goal = goal := by
  rcases h with rfl | rfl
  · exact Or.inl rfl
  · exact Or.inr rfl

/-! ### Two triangles -/

/-- Two triangles beside each other. -/
def triangles : List (List (Point ℝ)) :=
  [[(0, 0), (1, 0), (0, 1)], [(3, 0), (4, 0), (3, 1)]]

theorem isObstacles_triangles : IsObstacles triangles := by
  have hdisjoint : Disjoint (region [(0, 0), (1, 0), (0, 1)])
      (region [(3, 0), (4, 0), (3, 1)]) := by
    have hleft : region [(0, 0), (1, 0), (0, 1)] ⊆ Set.Iic 1 ×ˢ Set.univ :=
      region_subset ((convex_Iic 1).prod convex_univ) (by simp)
    have hright : region [(3, 0), (4, 0), (3, 1)] ⊆ Set.Ici 3 ×ˢ Set.univ :=
      region_subset ((convex_Ici 3).prod convex_univ) (by norm_num)
    refine Set.disjoint_left.2 fun p hp hp' => ?_
    have h₁ : p.1 ≤ 1 := (hleft hp).1
    have h₃ : 3 ≤ p.1 := (hright hp').1
    linarith
  constructor
  · intro polygon hmem
    rcases List.mem_pair.1 hmem with rfl | rfl
    · exact isPolygon_triangle (by norm_num [orient])
    · exact isPolygon_triangle (by norm_num [orient])
  · intro i j hij
    fin_cases i <;> fin_cases j
    · exact absurd rfl hij
    · exact hdisjoint
    · exact hdisjoint.symm
    · exact absurd rfl hij

/-! ### The paths -/

/-- **Paths are safe.**  `search` on the graph of disjoint convex polygons returns; a path that is
not empty leads from `start` to `goal`; and a leg meets the interior of a polygon only if one of its
ends is `start` or `goal` and lies in the polygon.  So no leg between two points of polygons cuts
through an obstacle, and none at all does if `start` and `goal` lie outside. -/
theorem search_safe (h : IsObstacles polygons) (start goal : Point ℝ) :
    ∃ (fuel₀ : ℕ) (path : List (Point ℝ)) (graph : VizGraph polygons),
      (∀ fuel ≥ fuel₀, (constructVizGraph polygons).search distance fuel start goal =
        some (path, graph)) ∧
      (path ≠ [] → path.head? = some start ∧ path.getLast? = some goal) ∧
      (∀ leg ∈ legs path, ∀ polygon ∈ polygons,
        ¬ Disjoint (segment ℝ leg.1 leg.2) (interior (region polygon)) →
          ((leg.1 = start ∨ leg.1 = goal) ∧ leg.1 ∈ region polygon) ∨
            ((leg.2 = start ∨ leg.2 = goal) ∧ leg.2 ∈ region polygon)) ∧
      (∃ nodes : List (Node polygons), path = nodes.map (Node.point start goal) ∧
        ∀ leg ∈ legs nodes, ¬ leg.1.IsQuery → ¬ leg.2.IsQuery → ∀ polygon ∈ polygons,
          Disjoint (segment ℝ (leg.1.point start goal) (leg.2.point start goal))
            (interior (region polygon))) ∧
      ((∀ polygon ∈ polygons, start ∉ region polygon ∧ goal ∉ region polygon) →
        ∀ leg ∈ legs path, ∀ polygon ∈ polygons,
          Disjoint (segment ℝ leg.1 leg.2) (interior (region polygon))) := by
  obtain ⟨fuel₀, nodes, graph, hsearch, hends, hsafe⟩ := search_legSafe h start goal
  refine ⟨fuel₀, nodes.map (Node.point start goal), graph, hsearch, fun hne => ?_, ?_,
    ⟨nodes, rfl, fun leg hleg h₁ h₂ polygon hmem => ?_⟩, fun hout => ?_⟩
  · obtain ⟨hhead, hlast⟩ := hends fun hnil => hne (by rw [hnil, List.map_nil])
    rw [List.head?_map, List.getLast?_map, hhead, hlast]
    exact ⟨rfl, rfl⟩
  · rw [legs_map]
    intro leg hleg polygon hmem hmeet
    obtain ⟨nodeLeg, hnodeLeg, rfl⟩ := List.mem_map.1 hleg
    exact (hsafe nodeLeg hnodeLeg polygon hmem hmeet).imp
      (fun hend => ⟨hend.1.point_eq, hend.2⟩) (fun hend => ⟨hend.1.point_eq, hend.2⟩)
  · by_contra hmeet
    rcases hsafe leg hleg polygon hmem hmeet with hend | hend
    · exact h₁ hend.1
    · exact h₂ hend.1
  · rw [legs_map]
    intro leg hleg polygon hmem
    obtain ⟨nodeLeg, hnodeLeg, rfl⟩ := List.mem_map.1 hleg
    obtain ⟨hstart, hgoal⟩ := hout polygon hmem
    have hnot : ∀ u : Node polygons, ¬ (u.IsQuery ∧ u.point start goal ∈ region polygon) := by
      rintro u ⟨rfl | rfl, hin⟩
      · exact hstart hin
      · exact hgoal hin
    by_contra hmeet
    exact (hsafe nodeLeg hnodeLeg polygon hmem hmeet).elim (hnot _) (hnot _)

theorem search_safe_triangles :
    ∃ (fuel₀ : ℕ) (path : List (Point ℝ)) (graph : VizGraph triangles),
      (∀ fuel ≥ fuel₀, (constructVizGraph triangles).search distance fuel (-1, 1 / 4) (5, 1 / 4) =
        some (path, graph)) ∧
      (path ≠ [] → path.head? = some (-1, 1 / 4) ∧ path.getLast? = some (5, 1 / 4)) ∧
      ∀ leg ∈ legs path, ∀ polygon ∈ triangles,
        Disjoint (segment ℝ leg.1 leg.2) (interior (region polygon)) := by
  obtain ⟨fuel₀, path, graph, hsearch, hends, -, -, hclear⟩ :=
    search_safe isObstacles_triangles (-1, 1 / 4) (5, 1 / 4)
  refine ⟨fuel₀, path, graph, hsearch, hends, hclear fun polygon hmem => ?_⟩
  have hbetween : region polygon ⊆ Set.Icc 0 4 ×ˢ Set.univ := by
    refine region_subset ((convex_Icc 0 4).prod convex_univ) ?_
    rcases List.mem_pair.1 hmem with rfl | rfl <;> norm_num
  constructor
  · intro hstart
    exact absurd (hbetween hstart).1.1 (by norm_num)
  · intro hgoal
    exact absurd (hbetween hgoal).1.2 (by norm_num)

end Aimbots.Pathfinding
