import Aimbots.Library.LabelCorrecting
import Aimbots.Pathfinding.PrioQueue

/-!
# `pathfinding/A_star.h`: the A* search

`AStar.search` as the code runs it, over an arbitrary node type and exact costs: the local maps
`came_from`, `g_score` and `f_score`, the open set, and the neighbor map, which is a member and
which the subscript `neighbors[curr]` extends by empty entries.  The loops of the code have no
bound of their own, so `loop` and `reconstruct` take fuel; `none` means that it ran out.

The search is a label-correcting search (`SearchState.labels`): visiting a neighbor leaves the
state alone or is one `Labels.relax` (`visit_cases`).
-/

namespace Aimbots.Pathfinding

/-- The data members of `AStar`. -/
structure AStar (N K : Type*) where
  neighbors : UnorderedMap N (List N)
  heuristic : N → N → K
  travelCost : N → N → K

/-- The neighbor map and the local variables of `search`. -/
structure SearchState (N K : Type*) [LinearOrder K] where
  neighbors : UnorderedMap N (List N)
  openSet : PrioQueue N K
  cameFrom : UnorderedMap N N
  gScore : UnorderedMap N K
  fScore : UnorderedMap N K

/-- `while (came_from.find(curr) != came_from.end())`: the path is prolonged at its front. -/
def reconstruct {N : Type*} (cameFrom : UnorderedMap N N) : ℕ → N → List N → Option (List N)
  | 0, _, _ => none
  | fuel + 1, curr, path =>
    match cameFrom.find? curr with
    | none => some path
    | some prev => reconstruct cameFrom fuel prev (prev :: path)

namespace AStar

variable {N K : Type*} [DecidableEq N] [AddCommGroup K] [LinearOrder K]

/-- The state in which the loop of `search` starts. -/
def initState (A : AStar N K) (start goal : N) : SearchState N K where
  neighbors := A.neighbors
  openSet := PrioQueue.empty.put start (A.heuristic start goal)
  cameFrom := .empty
  gScore := UnorderedMap.empty.set start 0
  fScore := UnorderedMap.empty.set start (A.heuristic start goal)

/-- The body of the loop over the neighbors of `curr`, which has been labelled when it was put
into the open set: its subscript `g_score[curr]` inserts nothing. -/
def visit (A : AStar N K) (goal curr : N) (s : SearchState N K) (it : N) : SearchState N K :=
  let tentative := (s.gScore.find? curr).getD 0 + A.travelCost curr it
  if (s.gScore.find? it).all (tentative < ·) then
    { s with
      cameFrom := s.cameFrom.set it curr
      gScore := s.gScore.set it tentative
      fScore := s.fScore.set it (tentative + A.heuristic it goal)
      openSet := s.openSet.put it (tentative + A.heuristic it goal) }
  else s

/-- The loop over `neighbors[curr]`. -/
def expand (A : AStar N K) (goal curr : N) (s : SearchState N K) : SearchState N K :=
  (s.neighbors.vector curr).foldl (A.visit goal curr)
    { s with neighbors := s.neighbors.touch curr }

/-- `while (!open_set.empty())`. -/
def loop (A : AStar N K) (goal : N) : ℕ → SearchState N K → Option (List N × SearchState N K)
  | 0, _ => none
  | fuel + 1, s =>
    match s.openSet.get with
    | none => some ([], s)
    | some (curr, openSet) =>
      if curr = goal then
        (reconstruct s.cameFrom fuel curr [curr]).map (·, { s with openSet })
      else
        A.loop goal fuel (A.expand goal curr { s with openSet })

/-- `search`: the path, and the object with the neighbor map it leaves. -/
def search (A : AStar N K) (fuel : ℕ) (start goal : N) : Option (List N × AStar N K) :=
  (A.loop goal fuel (A.initState start goal)).map fun r =>
    (r.1, { A with neighbors := r.2.neighbors })

omit [DecidableEq N] [AddCommGroup K] [LinearOrder K] in
/-- There is an edge from every node to each of its neighbors. -/
def Edge (A : AStar N K) (u v : N) : Prop := v ∈ A.neighbors.vector u

/-- The heuristic never overestimates the cost of reaching `goal`. -/
def Admissible (A : AStar N K) (goal : N) : Prop :=
  ∀ v p, Walk A.Edge v goal p → A.heuristic v goal ≤ cost A.travelCost p

end AStar

/-! ### The search as a label-correcting search -/

section Labels

variable {N K : Type*} [LinearOrder K]

/-- The labels, parents and open nodes of a state. -/
def SearchState.labels (s : SearchState N K) : Labels N K where
  label := s.gScore.find?
  parent := s.cameFrom.find?
  opened := {v | ∃ p, s.openSet.Holds v p}

variable [DecidableEq N] [AddCommGroup K]

/-- The invariant of the search: that of its labels, the priority of every open node, and a
neighbor map that reads as it did at the start. -/
structure SearchState.Inv (A : AStar N K) (start goal : N) (W : N → N → Prop)
    (s : SearchState N K) : Prop where
  labels : s.labels.Inv A.Edge A.travelCost start W
  priority : ∀ v p, s.openSet.Holds v p →
    ∃ x, s.gScore.find? v = some x ∧ p = x + A.heuristic v goal
  vector : ∀ u, s.neighbors.vector u = A.neighbors.vector u

/-- A goal that has been found is open. -/
def SearchState.GoalOpen (goal : N) (s : SearchState N K) : Prop :=
  ∀ x, s.labels.label goal = some x → goal ∈ s.labels.opened

namespace AStar

variable {A : AStar N K} {start goal curr it : N} {W : N → N → Prop} {s : SearchState N K}

theorem labels_initState : (A.initState start goal).labels = Labels.init start := by
  refine Labels.ext rfl rfl ?_
  ext v
  simp [SearchState.labels, initState, PrioQueue.holds_put, Labels.init]

theorem inv_initState (A : AStar N K) (start goal : N) :
    (A.initState start goal).Inv A start goal Labels.nowhere := by
  refine ⟨by rw [labels_initState]; exact Labels.inv_init, fun v p h => ?_, fun u => rfl⟩
  rw [initState, PrioQueue.holds_put _ _ _ (by simp)] at h
  obtain ⟨rfl, rfl⟩ : v = start ∧ p = A.heuristic start goal := by simpa using h
  exact ⟨0, by simp [initState], by simp⟩

theorem goalOpen_initState : (A.initState start goal).GoalOpen goal := by
  intro x hx
  rw [labels_initState] at hx ⊢
  by_cases hg : goal = start
  · exact hg
  · simp [Labels.init, hg] at hx

omit [DecidableEq N] [AddCommGroup K] in
theorem improves_iff {t : K} :
    (s.gScore.find? it).all (t < ·) = true ↔ s.labels.Improves it t := by
  cases h : s.gScore.find? it <;> simp [Labels.Improves, SearchState.labels, h]

variable [IsOrderedAddMonoid K]

/-- **Visiting a neighbor** leaves the state alone or relaxes the edge to it. -/
theorem visit_cases (it : N) (h : s.Inv A start goal W) {x : K}
    (hx : s.gScore.find? curr = some x) :
    (A.visit goal curr s it = s ∧ ¬ s.labels.Improves it (x + A.travelCost curr it)) ∨
    (s.labels.Improves it (x + A.travelCost curr it) ∧
      (A.visit goal curr s it).labels = s.labels.relax curr it (x + A.travelCost curr it) ∧
      (A.visit goal curr s it).neighbors = s.neighbors ∧
      ∀ v p, (A.visit goal curr s it).openSet.Holds v p ↔
        (v = it ∧ p = x + A.travelCost curr it + A.heuristic it goal) ∨
          (v ≠ it ∧ s.openSet.Holds v p)) := by
  by_cases himp : s.labels.Improves it (x + A.travelCost curr it)
  · have hput := fun v p => s.openSet.holds_put it (x + A.travelCost curr it + A.heuristic it goal)
      (fun p hp => by
        obtain ⟨y, hy, rfl⟩ := h.priority it p hp
        exact add_lt_add_left (himp y hy) _) v p
    refine Or.inr ⟨himp, ?_, ?_, ?_⟩ <;>
      simp only [visit, hx, Option.getD_some, improves_iff.2 himp, if_true]
    · refine Labels.ext rfl rfl ?_
      ext v
      rw [Labels.mem_opened_relax]
      show (∃ p, _) ↔ v = it ∨ ∃ p, s.openSet.Holds v p
      simp only [hput]
      by_cases hv : v = it <;> simp [hv]
    · exact hput
  · refine Or.inl ⟨?_, himp⟩
    simp only [visit, hx, Option.getD_some]
    rw [if_neg (fun ht => himp (improves_iff.1 ht))]

end AStar

end Labels

end Aimbots.Pathfinding
