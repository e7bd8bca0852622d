import Aimbots.Pathfinding.VizGraphSafe

/-!
# What queries do to the visibility graph

`VizGraph::search` adds the points of the query to the neighbor map and removes them again.  Between
the two, the search inserts entries by its subscripts, but only for `start`: every point of a
polygon has an entry, and `goal` is not expanded.  So the map is afterwards what it was
(`removeQuery_eq`), and both keys that are erased are there (`mem_keys_removeGoal`).
-/

namespace Aimbots.Pathfinding

/-! ### The search only inserts empty entries -/

namespace AStar

variable {N K : Type*} [DecidableEq N] [AddCommGroup K] [LinearOrder K] {A A' : AStar N K}
  {start goal curr : N} {s s' : SearchState N K} {path : List N} {fuel : ℕ}

theorem neighbors_foldl_visit (l : List N) (s : SearchState N K) :
    (l.foldl (A.visit goal curr) s).neighbors = s.neighbors := by
  induction l generalizing s with
  | nil => rfl
  | cons v l ih =>
    rw [List.foldl_cons, ih, visit]
    split_ifs <;> rfl

theorem neighbors_expand (s : SearchState N K) :
    (A.expand goal curr s).neighbors = s.neighbors.touch curr := neighbors_foldl_visit _ _

/-- A search only inserts entries that read as a missing one. -/
theorem loop_extends (h : A.loop goal fuel s = some (path, s')) :
    s.neighbors.Extends s'.neighbors := by
  induction fuel generalizing s with
  | zero => cases h
  | succ fuel ih =>
    rw [loop] at h
    split at h
    · cases h
      exact .refl _
    · split_ifs at h
      · obtain ⟨_, -, heq⟩ := Option.map_eq_some_iff.1 h
        cases heq
        exact .refl _
      · have hrest := ih h
        rw [neighbors_expand] at hrest
        exact (UnorderedMap.extends_touch _ _).trans hrest

/-- The first node that is expanded is `start`. -/
theorem start_mem_keys_of_loop (hne : start ≠ goal)
    (h : A.loop goal fuel (A.initState start goal) = some (path, s')) :
    start ∈ s'.neighbors.keys := by
  have hholds : ∀ x p, (A.initState start goal).openSet.Holds x p → x = start := by
    intro x p hx
    rw [initState, PrioQueue.holds_put _ _ _ (by simp)] at hx
    rcases hx with ⟨hx, -⟩ | ⟨-, hx⟩
    · exact hx
    · exact absurd hx (PrioQueue.not_holds_empty x p)
  cases fuel with
  | zero => cases h
  | succ fuel =>
    rw [loop] at h
    split at h
    · rename_i hnone
      have hstart := PrioQueue.get_eq_none.1 hnone start (A.heuristic start goal)
      rw [initState, PrioQueue.holds_put _ _ _ (by simp)] at hstart
      exact absurd (.inl ⟨rfl, rfl⟩) hstart
    · rename_i x openSet hget
      obtain ⟨⟨p, hx, -⟩, -⟩ := PrioQueue.holds_get hget
      obtain rfl := hholds x p hx
      rw [if_neg hne] at h
      have hrest := loop_extends h
      rw [neighbors_expand] at hrest
      exact hrest.keys_subset (UnorderedMap.mem_keys_touch.2 (.inl rfl))

theorem search_extends (hne : start ≠ goal) (h : A.search fuel start goal = some (path, A')) :
    A.neighbors.Extends A'.neighbors ∧ start ∈ A'.neighbors.keys := by
  obtain ⟨⟨path', s'⟩, hloop, heq⟩ := Option.map_eq_some_iff.1 h
  cases heq
  exact ⟨loop_extends hloop, start_mem_keys_of_loop hne hloop⟩

end AStar

/-! ### The entries of the graph -/

section Entries

variable {K : Type*} [Field K] [LinearOrder K] {polygons : List (List (Point K))}

/-- The map has entries for the points of the polygons only, and no neighbor is a point of a
query. -/
structure IsGraph (m : UnorderedMap (Node polygons) (List (Node polygons))) : Prop where
  vertex_mem_keys : ∀ i j, Node.vertex i j ∈ m.keys
  start_notMem_keys : Node.start ∉ m.keys
  goal_notMem_keys : Node.goal ∉ m.keys
  start_notMem : ∀ u, Node.start ∉ m.vector u
  goal_notMem : ∀ u, Node.goal ∉ m.vector u

/-- The keys are points of polygons. -/
def VertexKeys (m : UnorderedMap (Node polygons) (List (Node polygons))) : Prop :=
  ∀ u ∈ m.keys, ∃ i j, u = .vertex i j

omit [Field K] in
theorem VertexKeys.pushBack {m : UnorderedMap (Node polygons) (List (Node polygons))}
    (h : VertexKeys m) (i : Fin polygons.length) (j : Fin (polygons.get i).length)
    (w : Node polygons) : VertexKeys (m.pushBack (.vertex i j) w) := by
  intro u hu
  rcases UnorderedMap.mem_keys_pushBack.1 hu with rfl | hu
  · exact ⟨i, j, rfl⟩
  · exact h u hu

theorem VertexKeys.addVertex {m : UnorderedMap (Node polygons) (List (Node polygons))}
    (h : VertexKeys m) (i : Fin polygons.length) (j : Fin (polygons.get i).length) :
    VertexKeys (addVertex polygons i m j) := by
  refine List.foldlRecOn (motive := VertexKeys) _ _ ((h.pushBack _ _ _).pushBack _ _ _) ?_
  intro m hm x _
  refine List.foldlRecOn (motive := VertexKeys) _ _ hm ?_
  intro m hm y _
  rw [connect]
  split_ifs
  · exact (hm.pushBack _ _ _).pushBack _ _ _
  · exact hm

theorem vertexKeys_constructVizGraph (polygons : List (List (Point K))) :
    VertexKeys (constructVizGraph polygons).neighbors := by
  refine List.foldlRecOn (motive := VertexKeys) _ _ (fun u hu => absurd rfl hu) ?_
  intro m hm i _
  exact List.foldlRecOn (motive := VertexKeys) _ _ hm fun m hm j _ => hm.addVertex i j

theorem not_adjacent_start {u : Node polygons} : ¬ Adjacent u .start := nofun

theorem not_adjacent_goal {u : Node polygons} : ¬ Adjacent u .goal := nofun

theorem isGraph_constructVizGraph (polygons : List (List (Point K))) :
    IsGraph (constructVizGraph polygons).neighbors where
  vertex_mem_keys i j := by
    have hnext := (mem_constructVizGraph _ _).2 (Adjacent.next i j)
    intro hnone
    rw [UnorderedMap.vector, hnone] at hnext
    exact List.not_mem_nil hnext
  start_notMem_keys h := by
    obtain ⟨_, _, heq⟩ := vertexKeys_constructVizGraph polygons _ h
    cases heq
  goal_notMem_keys h := by
    obtain ⟨_, _, heq⟩ := vertexKeys_constructVizGraph polygons _ h
    cases heq
  start_notMem u h := not_adjacent_start ((mem_constructVizGraph _ _).1 h)
  goal_notMem u h := not_adjacent_goal ((mem_constructVizGraph _ _).1 h)

end Entries

/-! ### One query -/

section Query

variable {K : Type*} [Field K] [LinearOrder K] {polygons : List (List (Point K))}

/-- What `search` searches while the points of the query are in the map. -/
def VizGraph.queryFinder (dist : Point K → Point K → K) (graph : VizGraph polygons)
    (start goal : Point K) : AStar (Node polygons) K where
  neighbors := addQuery start goal graph.neighbors
  heuristic := fun a b => dist (a.point start goal) (b.point start goal)
  travelCost := fun a b => dist (a.point start goal) (b.point start goal)

/-- `removeQuery` before it erases the keys. -/
def VizGraph.removeGoal (neighbors : UnorderedMap (Node polygons) (List (Node polygons))) :
    UnorderedMap (Node polygons) (List (Node polygons)) :=
  (neighbors.vector .goal).foldl
    (fun neighbors v => neighbors.set v ((neighbors.vector v).filter fun w => w ≠ Node.goal))
    (neighbors.touch .goal)

omit [Field K] in
theorem VizGraph.removeQuery_eq
    (neighbors : UnorderedMap (Node polygons) (List (Node polygons))) :
    removeQuery neighbors = ((removeGoal neighbors).erase .start).erase .goal := rfl

variable {start goal : Point K} {m₀ m m' : UnorderedMap (Node polygons) (List (Node polygons))}

/-- The entries of the points of polygons, with `goal` behind those that see it. -/
structure QueryAdded (goal : Point K) (m₀ m : UnorderedMap (Node polygons) (List (Node polygons))) :
    Prop where
  vertex : ∀ i j, ∃ l, m.find? (.vertex i j) = some l ∧
    l.filter (fun w => w ≠ Node.goal) = m₀.vector (.vertex i j)
  unseen : ∀ i j, hasLOS goal ((polygons.get i).get j) polygons = false →
    m.find? (.vertex i j) = m₀.find? (.vertex i j)

theorem IsGraph.queryAdded (h : IsGraph m₀) (goal : Point K) : QueryAdded goal m₀ m₀ where
  vertex i j := by
    obtain ⟨l, hl⟩ := UnorderedMap.mem_keys.1 (h.vertex_mem_keys i j)
    have hvector : m₀.vector (.vertex i j) = l := by
      rw [UnorderedMap.vector, hl]
      rfl
    have hgoal := h.goal_notMem (.vertex i j)
    rw [hvector] at hgoal ⊢
    refine ⟨l, hl, List.filter_eq_self.2 fun w hw => decide_eq_true ?_⟩
    rintro rfl
    exact hgoal hw
  unseen _ _ _ := rfl

/-- The entries of points of polygons after one point: only its own may change. -/
theorem find?_addVisible (m : UnorderedMap (Node polygons) (List (Node polygons)))
    (i x : Fin polygons.length) (j : Fin (polygons.get i).length)
    (y : Fin (polygons.get x).length) :
    (VizGraph.addVisible start goal i m j).find? (.vertex x y) =
      if hasLOS goal ((polygons.get i).get j) polygons = true ∧
          (Node.vertex x y : Node polygons) = .vertex i j then
        some (m.vector (.vertex x y) ++ [.goal])
      else m.find? (.vertex x y) := by
  by_cases hxy : (Node.vertex x y : Node polygons) = .vertex i j
  · rw [hxy, VizGraph.addVisible]
    split_ifs <;> simp_all [UnorderedMap.pushBack, UnorderedMap.vector]
  · rw [VizGraph.addVisible]
    split_ifs <;> simp_all [UnorderedMap.pushBack, UnorderedMap.vector]

theorem QueryAdded.addVisible (h : QueryAdded goal m₀ m) (i : Fin polygons.length)
    (j : Fin (polygons.get i).length) :
    QueryAdded goal m₀ (VizGraph.addVisible start goal i m j) := by
  constructor
  · intro x y
    obtain ⟨l, hl, hfilter⟩ := h.vertex x y
    rw [find?_addVisible]
    split_ifs with hseen
    · refine ⟨_, rfl, ?_⟩
      rw [UnorderedMap.vector, hl, Option.getD_some, List.filter_append, hfilter]
      simp
    · exact ⟨l, hl, hfilter⟩
  · intro x y hunseen
    rw [find?_addVisible, ← h.unseen x y hunseen, if_neg]
    rintro ⟨hlos, hxy⟩
    cases hxy
    exact Bool.false_ne_true (hunseen.symm.trans hlos)

theorem IsGraph.queryAdded_addQuery (h : IsGraph m₀) (start goal : Point K) :
    QueryAdded goal m₀ (VizGraph.addQuery start goal m₀) := by
  refine List.foldlRecOn (motive := QueryAdded goal m₀) _ _ (h.queryAdded goal) ?_
  intro m hm i _
  exact List.foldlRecOn (motive := QueryAdded goal m₀) _ _ hm fun m hm j _ => hm.addVisible i j

/-- Every point that `goal` sees is a neighbor of `goal` while the query is searched. -/
theorem mem_vector_goal {i : Fin polygons.length} {j : Fin (polygons.get i).length} :
    .vertex i j ∈ (VizGraph.addQuery start goal (constructVizGraph polygons).neighbors).vector
      .goal ↔ hasLOS goal ((polygons.get i).get j) polygons = true := by
  rw [mem_addQuery]
  constructor
  · intro h
    cases h with
    | graph hadj => cases hadj
    | goalBack hlos => exact hlos
  · exact .goalBack

theorem goal_notMem_vector_goal :
    Node.goal ∉ (VizGraph.addQuery start goal (constructVizGraph polygons).neighbors).vector
      .goal := by
  rw [mem_addQuery]
  intro h
  cases h with
  | graph hadj => cases hadj

theorem start_notMem_vector_goal :
    Node.start ∉ (VizGraph.addQuery start goal (constructVizGraph polygons).neighbors).vector
      .goal := by
  rw [mem_addQuery]
  intro h
  cases h with
  | graph hadj => cases hadj

section Searched

-- the map that a search of the query leaves
variable (hsearched :
  (VizGraph.addQuery start goal (constructVizGraph polygons).neighbors).Extends m)
include hsearched

/-- The entries of the points of polygons are what they were. -/
theorem find?_removeGoal (i : Fin polygons.length) (j : Fin (polygons.get i).length) :
    (VizGraph.removeGoal m).find? (.vertex i j) =
      (constructVizGraph polygons).neighbors.find? (.vertex i j) := by
  have hgraph := isGraph_constructVizGraph polygons
  have hadded := hgraph.queryAdded_addQuery start goal
  obtain ⟨l, hl, hfilter⟩ := hadded.vertex i j
  have hfind := hsearched.find?_eq (UnorderedMap.mem_keys.2 ⟨l, hl⟩)
  rw [VizGraph.removeGoal, UnorderedMap.find?_foldl_filter, UnorderedMap.vector_touch,
    hsearched.vector_eq .goal, hsearched.vector_eq (.vertex i j)]
  split_ifs with hmem
  · obtain ⟨l₀, hl₀⟩ := UnorderedMap.mem_keys.1 (hgraph.vertex_mem_keys i j)
    rw [UnorderedMap.vector, hl, Option.getD_some, hfilter, UnorderedMap.vector, hl₀]
    rfl
  · rw [UnorderedMap.touch, UnorderedMap.find?_set_of_ne _ _ (by simp), hfind]
    exact hadded.unseen i j (Bool.eq_false_iff.2 fun hlos => hmem (mem_vector_goal.2 hlos))

/-- The keys of the query are there when they are erased. -/
theorem mem_keys_removeGoal (hstart : Node.start ∈ m.keys) :
    Node.start ∈ (VizGraph.removeGoal m).keys ∧
      Node.goal ∈ ((VizGraph.removeGoal m).erase .start).keys := by
  have hkeys : ∀ u : Node polygons, u ∉ m.vector .goal →
      (VizGraph.removeGoal m).find? u = (m.touch .goal).find? u := by
    intro u hu
    rw [VizGraph.removeGoal, UnorderedMap.find?_foldl_filter, if_neg hu]
  constructor
  · have hnot : Node.start ∉ m.vector .goal := by
      rw [hsearched.vector_eq]
      exact start_notMem_vector_goal
    show (VizGraph.removeGoal m).find? .start ≠ none
    rw [hkeys _ hnot]
    exact UnorderedMap.mem_keys_touch.2 (.inr hstart)
  · have hnot : Node.goal ∉ m.vector .goal := by
      rw [hsearched.vector_eq]
      exact goal_notMem_vector_goal
    show ((VizGraph.removeGoal m).erase .start).find? .goal ≠ none
    rw [UnorderedMap.find?_erase_of_ne _ (by simp), hkeys _ hnot]
    exact UnorderedMap.mem_keys_touch.2 (.inl rfl)

/-- **Removing the query leaves the graph.** -/
theorem removeQuery_eq_graph :
    VizGraph.removeQuery m = (constructVizGraph polygons).neighbors := by
  have hgraph := isGraph_constructVizGraph polygons
  ext1 u
  rw [VizGraph.removeQuery_eq]
  cases u with
  | vertex i j =>
    rw [UnorderedMap.find?_erase_of_ne _ (by simp), UnorderedMap.find?_erase_of_ne _ (by simp),
      find?_removeGoal hsearched]
  | start =>
    rw [UnorderedMap.find?_erase_of_ne _ (by simp), UnorderedMap.find?_erase_self]
    exact (not_not.1 hgraph.start_notMem_keys).symm
  | goal =>
    rw [UnorderedMap.find?_erase_self]
    exact (not_not.1 hgraph.goal_notMem_keys).symm

end Searched

/-- One query, from the graph: what it leaves. -/
theorem search_eq_graph {dist : Point K → Point K → K} {fuel : ℕ} {path : List (Point K)}
    {graph : VizGraph polygons}
    (h : (constructVizGraph polygons).search dist fuel start goal = some (path, graph)) :
    graph = constructVizGraph polygons := by
  rw [VizGraph.search] at h
  split_ifs at h with hlos
  · cases h
    rfl
  · obtain ⟨⟨ptrPath, A'⟩, hsearch, heq⟩ := Option.map_eq_some_iff.1 h
    cases heq
    have hextends := AStar.search_extends (by simp) hsearch
    exact congrArg VizGraph.mk (removeQuery_eq_graph hextends.1)

end Query

/-! ### Sequences of queries -/

variable {polygons : List (List (Point ℝ))} {graph : VizGraph polygons}

/-- The visibility graphs that queries lead to, one after another. -/
inductive Queried : VizGraph polygons → Prop
  | construct : Queried (constructVizGraph polygons)
  | search {graph graph' : VizGraph polygons} {fuel : ℕ} {start goal : Point ℝ}
      {path : List (Point ℝ)} (h : Queried graph)
      (hsearch : graph.search distance fuel start goal = some (path, graph')) : Queried graph'

theorem Queried.eq_graph (h : Queried graph) : graph = constructVizGraph polygons := by
  induction h with
  | construct => rfl
  | search _ hsearch ih =>
    subst ih
    exact search_eq_graph hsearch

/-- The query returns, and leaves the keys and the neighbors that were there: none of them is a
point of the query.  If the query is searched, both keys that are erased afterwards are there. -/
structure LeavesIntact (graph : VizGraph polygons) (start goal : Point ℝ) : Prop where
  returns : ∃ fuel₀ path graph', (∀ fuel ≥ fuel₀,
    graph.search distance fuel start goal = some (path, graph'))
  intact : ∀ fuel path graph', graph.search distance fuel start goal = some (path, graph') →
    (∀ u, graph'.neighbors.find? u = graph.neighbors.find? u) ∧
      (Node.start ∉ graph'.neighbors.keys ∧ Node.goal ∉ graph'.neighbors.keys) ∧
      ∀ u, Node.start ∉ graph'.neighbors.vector u ∧ Node.goal ∉ graph'.neighbors.vector u
  erases : hasLOS start goal polygons = false → ∀ fuel ptrPath pathfinder,
    (graph.queryFinder distance start goal).search fuel .start .goal = some (ptrPath, pathfinder) →
      Node.start ∈ (VizGraph.removeGoal pathfinder.neighbors).keys ∧
        Node.goal ∈ ((VizGraph.removeGoal pathfinder.neighbors).erase .start).keys

/-- **Queries leave the graph intact**, whatever queries went before. -/
theorem Queried.leavesIntact (h : Queried graph) (start goal : Point ℝ) :
    LeavesIntact graph start goal := by
  obtain rfl := h.eq_graph
  have hgraph := isGraph_constructVizGraph polygons
  constructor
  · obtain ⟨fuel₀, nodes, graph', hsearch, -⟩ := search_cases polygons start goal
    exact ⟨fuel₀, _, graph', hsearch⟩
  · intro fuel path graph' hsearch
    rw [search_eq_graph hsearch]
    exact ⟨fun _ => rfl, ⟨hgraph.start_notMem_keys, hgraph.goal_notMem_keys⟩,
      fun u => ⟨hgraph.start_notMem u, hgraph.goal_notMem u⟩⟩
  · intro _ fuel ptrPath pathfinder hsearch
    obtain ⟨hextends, hstart⟩ := AStar.search_extends (by simp) hsearch
    exact mem_keys_removeGoal hextends hstart

theorem Queried.leavesIntact_triangles :
    LeavesIntact (constructVizGraph triangles) (-1, 1 / 4) (5, 1 / 4) :=
  Queried.leavesIntact .construct (-1, 1 / 4) (5, 1 / 4)

end Aimbots.Pathfinding
