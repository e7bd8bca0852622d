import Aimbots.Pathfinding.AStar
import Mathlib.Algebra.Order.Field.Basic
import Mathlib.Data.Fintype.Sigma
import Mathlib.Data.List.FinRange

/-!
# `pathfinding/Viz_Graph.cpp`: the visibility graph

`hasLOS`, `constructVizGraph` and `VizGraph.search` over exact numbers.  The nodes of the graph are
addresses: that of point `j` of polygon `i`, and those of the two local variables `start` and
`goal` of `search`.

* `mem_constructVizGraph` says which edges the graph has;
* `mem_addQuery` says which it has while a query is searched.
-/

namespace Aimbots.Pathfinding

/-- `Point`. -/
abbrev Point (K : Type*) := K × K

section LineOfSight

variable {K : Type*} [Field K] [LinearOrder K]

/-- Whether the side from `p₃` to `p₄` takes `b` out of the sight of `a`: they intersect, strictly
between `a` and `b`. -/
def blocks (a b p₃ p₄ : Point K) : Bool :=
  let (x₁, y₁) := a
  let (x₂, y₂) := b
  let (x₃, y₃) := p₃
  let (x₄, y₄) := p₄
  let determinant := (x₂ - x₁) * (y₃ - y₄) - (x₃ - x₄) * (y₂ - y₁)
  if determinant = 0 then false
  else
    let s := 1 / determinant * ((x₃ - x₁) * (y₃ - y₄) - (y₃ - y₁) * (x₃ - x₄))
    let t := 1 / determinant * ((x₂ - x₁) * (y₃ - y₁) - (y₂ - y₁) * (x₃ - x₁))
    decide (s > 0 ∧ s < 1 ∧ t ≥ 0 ∧ t ≤ 1)

/-- The iterator behind `j`, with the first one behind the last. -/
def next {n : ℕ} (j : Fin n) : Fin n := if h : j + 1 < n then ⟨j + 1, h⟩ else ⟨0, j.pos⟩

/-- `has_LOS`. -/
def hasLOS (a b : Point K) (polygons : List (List (Point K))) : Bool :=
  polygons.all fun polygon =>
    (List.finRange polygon.length).all fun j =>
      !blocks a b (polygon.get j) (polygon.get (next j))

end LineOfSight

/-- The addresses of points that the search works on. -/
inductive Node {K : Type*} (polygons : List (List (Point K)))
  | vertex (i : Fin polygons.length) (j : Fin (polygons.get i).length)
  | start
  | goal
deriving DecidableEq

namespace Node

variable {K : Type*} {polygons : List (List (Point K))}

instance : Finite (Node polygons) := by
  refine Finite.of_surjective
    (fun x : Option (Option (Σ i : Fin polygons.length, Fin (polygons.get i).length)) =>
      match x with
      | none => start
      | some none => goal
      | some (some ⟨i, j⟩) => vertex i j) ?_
  rintro (⟨i, j⟩ | _ | _)
  · exact ⟨some (some ⟨i, j⟩), rfl⟩
  · exact ⟨none, rfl⟩
  · exact ⟨some none, rfl⟩

/-- The point at an address, in a query from `start` to `goal`. -/
def point (start goal : Point K) : Node polygons → Point K
  | vertex i j => (polygons.get i).get j
  | .start => start
  | .goal => goal

end Node

/-- `VizGraph`: the neighbor map of its `pathfinder`.  The cost functions of the `pathfinder` read
the points behind the addresses. -/
structure VizGraph {K : Type*} (polygons : List (List (Point K))) where
  neighbors : UnorderedMap (Node polygons) (List (Node polygons))

section Construction

variable {K : Type*} [Field K] [LinearOrder K] (polygons : List (List (Point K)))

/-- What `constructVizGraph` does for one pair of points of two polygons. -/
def connect (i : Fin polygons.length) (j : Fin (polygons.get i).length)
    (neighbors : UnorderedMap (Node polygons) (List (Node polygons)))
    (y : Σ x : Fin polygons.length, Fin (polygons.get x).length) :
    UnorderedMap (Node polygons) (List (Node polygons)) :=
  if hasLOS ((polygons.get i).get j) ((polygons.get y.1).get y.2) polygons then
    (neighbors.pushBack (.vertex i j) (.vertex y.1 y.2)).pushBack (.vertex y.1 y.2) (.vertex i j)
  else neighbors

/-- What `constructVizGraph` does for one point: the next point of its polygon is a neighbor, and
so are the points of the later polygons that it has a line of sight to. -/
def addVertex (i : Fin polygons.length)
    (neighbors : UnorderedMap (Node polygons) (List (Node polygons)))
    (j : Fin (polygons.get i).length) : UnorderedMap (Node polygons) (List (Node polygons)) :=
  let neighbors := neighbors.pushBack (.vertex i j) (.vertex i (next j))
  let neighbors := neighbors.pushBack (.vertex i (next j)) (.vertex i j)
  ((List.finRange polygons.length).drop (i + 1)).foldl
    (fun neighbors x => (List.finRange (polygons.get x).length).foldl
      (fun neighbors y => connect polygons i j neighbors ⟨x, y⟩) neighbors)
    neighbors

/-- `constructVizGraph`. -/
def constructVizGraph : VizGraph polygons where
  neighbors := (List.finRange polygons.length).foldl
    (fun neighbors i =>
      (List.finRange (polygons.get i).length).foldl (addVertex polygons i) neighbors)
    .empty

end Construction

namespace VizGraph

variable {K : Type*} [Field K] [LinearOrder K] {polygons : List (List (Point K))}

/-- What `search` does for one point: it is a neighbor of `start` if there is a line of sight, and
has `goal` as its neighbor if there is one.  The edges from `goal` are there to remove the others
again. -/
def addVisible (start goal : Point K) (i : Fin polygons.length)
    (neighbors : UnorderedMap (Node polygons) (List (Node polygons)))
    (j : Fin (polygons.get i).length) : UnorderedMap (Node polygons) (List (Node polygons)) :=
  let neighbors :=
    if hasLOS start ((polygons.get i).get j) polygons then
      neighbors.pushBack .start (.vertex i j)
    else neighbors
  if hasLOS goal ((polygons.get i).get j) polygons then
    (neighbors.pushBack (.vertex i j) .goal).pushBack .goal (.vertex i j)
  else neighbors

/-- The neighbor map that a query is searched in. -/
def addQuery (start goal : Point K)
    (neighbors : UnorderedMap (Node polygons) (List (Node polygons))) :
    UnorderedMap (Node polygons) (List (Node polygons)) :=
  (List.finRange polygons.length).foldl
    (fun neighbors i =>
      (List.finRange (polygons.get i).length).foldl (addVisible start goal i) neighbors)
    neighbors

/-- The edges to `goal` are removed, then those from `start` and from `goal`. -/
def removeQuery (neighbors : UnorderedMap (Node polygons) (List (Node polygons))) :
    UnorderedMap (Node polygons) (List (Node polygons)) :=
  let visible := neighbors.vector .goal
  let neighbors := visible.foldl
    (fun neighbors v =>
      neighbors.set v ((neighbors.vector v).filter fun w => w ≠ Node.goal))
    (neighbors.touch .goal)
  (neighbors.erase .start).erase .goal

/-- `VizGraph::search`: the path, and the graph that is left.  `dist` is the distance that both the
heuristic and the travel costs are. -/
def search (dist : Point K → Point K → K) (fuel : ℕ) (graph : VizGraph polygons)
    (start goal : Point K) : Option (List (Point K) × VizGraph polygons) :=
  if hasLOS start goal polygons then some ([start, goal], graph)
  else
    let pathfinder : AStar (Node polygons) K := {
      neighbors := addQuery start goal graph.neighbors
      heuristic := fun a b => dist (a.point start goal) (b.point start goal)
      travelCost := fun a b => dist (a.point start goal) (b.point start goal) }
    (pathfinder.search fuel .start .goal).map fun (ptrPath, pathfinder) =>
      (ptrPath.map (Node.point start goal), { neighbors := removeQuery pathfinder.neighbors })

end VizGraph

/-! ### The edges -/

section Edges

variable {K : Type*} [Field K] [LinearOrder K] {polygons : List (List (Point K))}

/-- The edges of the visibility graph: between consecutive points of a polygon, and, in both
directions, between points of two polygons with a line of sight. -/
inductive Adjacent : Node polygons → Node polygons → Prop
  | next (i : Fin polygons.length) (j : Fin (polygons.get i).length) :
      Adjacent (.vertex i j) (.vertex i (next j))
  | prev (i : Fin polygons.length) (j : Fin (polygons.get i).length) :
      Adjacent (.vertex i (Pathfinding.next j)) (.vertex i j)
  | sight {i x : Fin polygons.length} {j : Fin (polygons.get i).length}
      {y : Fin (polygons.get x).length} :
      i < x → hasLOS ((polygons.get i).get j) ((polygons.get x).get y) polygons = true →
        Adjacent (.vertex i j) (.vertex x y)
  | sightBack {i x : Fin polygons.length} {j : Fin (polygons.get i).length}
      {y : Fin (polygons.get x).length} :
      i < x → hasLOS ((polygons.get i).get j) ((polygons.get x).get y) polygons = true →
        Adjacent (.vertex x y) (.vertex i j)

/-- The edges while a query is searched. -/
inductive QueryEdge (start goal : Point K) : Node polygons → Node polygons → Prop
  | graph {u w : Node polygons} : Adjacent u w → QueryEdge start goal u w
  | start {i : Fin polygons.length} {j : Fin (polygons.get i).length} :
      hasLOS start ((polygons.get i).get j) polygons = true →
        QueryEdge start goal .start (.vertex i j)
  | goal {i : Fin polygons.length} {j : Fin (polygons.get i).length} :
      hasLOS goal ((polygons.get i).get j) polygons = true →
        QueryEdge start goal (.vertex i j) .goal
  | goalBack {i : Fin polygons.length} {j : Fin (polygons.get i).length} :
      hasLOS goal ((polygons.get i).get j) polygons = true →
        QueryEdge start goal .goal (.vertex i j)

omit [Field K] [LinearOrder K] in
theorem mem_drop_finRange {n : ℕ} {i x : Fin n} : x ∈ (List.finRange n).drop (i + 1) ↔ i < x := by
  rw [List.mem_drop_iff_getElem]
  constructor
  · rintro ⟨k, hk, rfl⟩
    rw [List.getElem_finRange, Fin.lt_def]
    show (i : ℕ) < i + 1 + k
    omega
  · intro h
    refine ⟨x - (i + 1), ?_, ?_⟩
    · rw [List.length_finRange]
      omega
    · rw [List.getElem_finRange]
      ext
      show (i : ℕ) + 1 + (x - (i + 1)) = x
      omega

theorem mem_connect (i : Fin polygons.length) (j : Fin (polygons.get i).length)
    (m : UnorderedMap (Node polygons) (List (Node polygons)))
    (y : Σ x : Fin polygons.length, Fin (polygons.get x).length) (k w : Node polygons) :
    w ∈ (connect polygons i j m y).vector k ↔ w ∈ m.vector k ∨
      hasLOS ((polygons.get i).get j) ((polygons.get y.1).get y.2) polygons = true ∧
        ((k = .vertex i j ∧ w = .vertex y.1 y.2) ∨ (k = .vertex y.1 y.2 ∧ w = .vertex i j)) := by
  rw [connect]
  split_ifs with hlos
  · simp only [UnorderedMap.mem_vector_pushBack, hlos, true_and, or_assoc]
  · simp only [hlos, Bool.false_eq_true, false_and, or_false]

theorem mem_addVertex (i : Fin polygons.length)
    (m : UnorderedMap (Node polygons) (List (Node polygons))) (j : Fin (polygons.get i).length)
    (k w : Node polygons) :
    w ∈ (addVertex polygons i m j).vector k ↔ w ∈ m.vector k ∨
      ((k = .vertex i j ∧ w = .vertex i (next j)) ∨ (k = .vertex i (next j) ∧ w = .vertex i j) ∨
        ∃ x, i < x ∧ ∃ y : Fin (polygons.get x).length,
          hasLOS ((polygons.get i).get j) ((polygons.get x).get y) polygons = true ∧
            ((k = .vertex i j ∧ w = .vertex x y) ∨ (k = .vertex x y ∧ w = .vertex i j))) := by
  simp only [addVertex]
  rw [UnorderedMap.mem_vector_foldl _ _ fun m x k w =>
    UnorderedMap.mem_vector_foldl _ _ (fun m y k w => mem_connect i j m ⟨x, y⟩ k w) _ m k w]
  simp only [UnorderedMap.mem_vector_pushBack, mem_drop_finRange, List.mem_finRange, true_and,
    or_assoc]

/-- **The edges of the visibility graph.** -/
theorem mem_constructVizGraph (k w : Node polygons) :
    w ∈ (constructVizGraph polygons).neighbors.vector k ↔ Adjacent k w := by
  rw [constructVizGraph, UnorderedMap.mem_vector_foldl _ _ fun m i k w =>
    UnorderedMap.mem_vector_foldl _ _ (mem_addVertex i) _ m k w]
  constructor
  · rintro (h | ⟨i, -, j, -, ⟨rfl, rfl⟩ | ⟨rfl, rfl⟩ | ⟨x, hlt, y, hlos, ⟨rfl, rfl⟩ | ⟨rfl, rfl⟩⟩⟩)
    · exact absurd h List.not_mem_nil
    · exact .next i j
    · exact .prev i j
    · exact .sight hlt hlos
    · exact .sightBack hlt hlos
  · intro h
    right
    cases h with
    | next i j =>
      exact ⟨i, List.mem_finRange i, j, List.mem_finRange j, Or.inl ⟨rfl, rfl⟩⟩
    | prev i j =>
      exact ⟨i, List.mem_finRange i, j, List.mem_finRange j, Or.inr (Or.inl ⟨rfl, rfl⟩)⟩
    | @sight i x j y hlt hlos =>
      exact ⟨i, List.mem_finRange i, j, List.mem_finRange j,
        Or.inr (Or.inr ⟨x, hlt, y, hlos, Or.inl ⟨rfl, rfl⟩⟩)⟩
    | @sightBack i x j y hlt hlos =>
      exact ⟨i, List.mem_finRange i, j, List.mem_finRange j,
        Or.inr (Or.inr ⟨x, hlt, y, hlos, Or.inr ⟨rfl, rfl⟩⟩)⟩

theorem mem_addVisible (start goal : Point K) (i : Fin polygons.length)
    (m : UnorderedMap (Node polygons) (List (Node polygons))) (j : Fin (polygons.get i).length)
    (k w : Node polygons) :
    w ∈ (VizGraph.addVisible start goal i m j).vector k ↔ w ∈ m.vector k ∨
      ((hasLOS start ((polygons.get i).get j) polygons = true ∧ k = .start ∧ w = .vertex i j) ∨
        hasLOS goal ((polygons.get i).get j) polygons = true ∧
          ((k = .vertex i j ∧ w = .goal) ∨ (k = .goal ∧ w = .vertex i j))) := by
  simp only [VizGraph.addVisible]
  split_ifs with hstart hgoal hgoal <;>
    simp only [UnorderedMap.mem_vector_pushBack, hstart, hgoal, true_and, false_and, or_false,
      false_or, or_assoc, Bool.false_eq_true]

/-- **The edges while a query is searched.** -/
theorem mem_addQuery (start goal : Point K) (k w : Node polygons) :
    w ∈ (VizGraph.addQuery start goal (constructVizGraph polygons).neighbors).vector k ↔
      QueryEdge start goal k w := by
  rw [VizGraph.addQuery, UnorderedMap.mem_vector_foldl _ _ fun m i k w =>
    UnorderedMap.mem_vector_foldl _ _ (mem_addVisible start goal i) _ m k w,
    mem_constructVizGraph]
  constructor
  · rintro (h | ⟨i, -, j, -, ⟨hlos, rfl, rfl⟩ | ⟨hlos, ⟨rfl, rfl⟩ | ⟨rfl, rfl⟩⟩⟩)
    · exact .graph h
    · exact .start hlos
    · exact .goal hlos
    · exact .goalBack hlos
  · intro h
    cases h with
    | graph h => exact Or.inl h
    | @start i j hlos =>
      exact Or.inr ⟨i, List.mem_finRange i, j, List.mem_finRange j, Or.inl ⟨hlos, rfl, rfl⟩⟩
    | @goal i j hlos =>
      exact Or.inr ⟨i, List.mem_finRange i, j, List.mem_finRange j,
        Or.inr ⟨hlos, Or.inl ⟨rfl, rfl⟩⟩⟩
    | @goalBack i j hlos =>
      exact Or.inr ⟨i, List.mem_finRange i, j, List.mem_finRange j,
        Or.inr ⟨hlos, Or.inr ⟨rfl, rfl⟩⟩⟩

end Edges

end Aimbots.Pathfinding
