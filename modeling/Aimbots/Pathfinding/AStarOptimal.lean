import Aimbots.Pathfinding.AStar

/-!
# A*: what the search returns

`inv_expand` carries the invariant through one round of the main loop.  From it,
`loop_sound` says what a search that returns has found, whatever the heuristic: the empty vector
only if `goal` cannot be reached, and otherwise a walk; if the heuristic is admissible and not
negative at `goal` itself, the walk is a shortest one.  `loop_terminates` shows that with finitely
many neighbor entries the loop ends: a round either makes some label better, which happens only
finitely often, or shortens the queue.  `search_spec` puts the two together.
-/

namespace Aimbots.Pathfinding.AStar

section Search

variable {N K : Type*} [DecidableEq N] [AddCommGroup K] [LinearOrder K]

variable {A : AStar N K} {start goal curr it : N} {W : N → N → Prop} {s : SearchState N K}

omit [AddCommGroup K] in
/-- Taking the first node out of the open set closes it. -/
theorem labels_get {openSet : PrioQueue N K} (hget : s.openSet.get = some (curr, openSet)) :
    ({ s with openSet } : SearchState N K).labels = s.labels.settle curr := by
  refine Labels.ext rfl rfl ?_
  ext v
  rw [Labels.mem_opened_settle]
  show (∃ p, openSet.Holds v p) ↔ (∃ p, s.openSet.Holds v p) ∧ v ≠ curr
  simp only [(PrioQueue.holds_get hget).2.1]
  exact ⟨fun ⟨p, hne, hp⟩ => ⟨⟨p, hp⟩, hne⟩, fun ⟨⟨p, hp⟩, hne⟩ => ⟨p, hne, hp⟩⟩

/-- `touch` changes nothing that the search reads. -/
theorem inv_touch (h : s.Inv A start goal W) (u : N) :
    ({ s with neighbors := s.neighbors.touch u } : SearchState N K).Inv A start goal W :=
  ⟨h.labels, h.priority, fun v => by simp [h.vector]⟩

theorem inv_get {openSet : PrioQueue N K} (h : s.Inv A start goal W)
    (hget : s.openSet.get = some (curr, openSet)) :
    ({ s with openSet } : SearchState N K).Inv A start goal fun a b => W a b ∨ a = curr := by
  refine ⟨?_, fun v p hv => ?_, h.vector⟩
  · rw [labels_get hget]
    exact h.labels.settle curr
  · exact h.priority v p (((PrioQueue.holds_get hget).2.1 v p).1 hv).2

variable [IsOrderedAddMonoid K] (hc : ∀ u v, A.Edge u v → 0 ≤ A.travelCost u v)
include hc

/-- Visiting one neighbor relaxes its edge and keeps everything else. -/
theorem inv_visit (h : s.Inv A start goal W) {x : K} (hx : s.gScore.find? curr = some x)
    (hE : A.Edge curr it) :
    (A.visit goal curr s it).Inv A start goal (fun a b => W a b ∧ ¬ (a = curr ∧ b = it)) ∧
      (A.visit goal curr s it).gScore.find? curr = some x := by
  rcases visit_cases it h hx with ⟨heq, himp⟩ | ⟨himp, hlab, hnb, hput⟩
  · rw [heq]
    exact ⟨⟨h.labels.skip hx himp, h.priority, h.vector⟩, hx⟩
  · have hlabel : (A.visit goal curr s it).gScore.find? = _ := congrArg Labels.label hlab
    refine ⟨⟨?_, fun v p hv => ?_, fun u => by rw [hnb, h.vector]⟩, ?_⟩
    · rw [hlab]
      exact h.labels.relax hc hx hE himp
    · rw [hlabel]
      rcases (hput v p).1 hv with ⟨rfl, rfl⟩ | ⟨hne, hv⟩
      · exact ⟨_, Labels.label_relax_self .., rfl⟩
      · obtain ⟨y, hy, rfl⟩ := h.priority v p hv
        exact ⟨y, (Labels.label_relax_of_ne _ _ _ _ hne).trans hy, rfl⟩
    · rw [hlabel, Labels.label_relax_of_ne _ _ _ _ (h.labels.ne_of_improves hc hx hE himp).2.symm]
      exact hx

/-- The loop over a list of neighbors relaxes all their edges. -/
theorem inv_foldl_visit {x : K} (l : List N) (hl : ∀ v ∈ l, A.Edge curr v)
    (h : s.Inv A start goal fun a b => W a b ∨ (a = curr ∧ b ∈ l))
    (hx : s.gScore.find? curr = some x) :
    (l.foldl (A.visit goal curr) s).Inv A start goal W := by
  induction l generalizing s with
  | nil => exact ⟨h.labels.mono fun a b _ => by simp, h.priority, h.vector⟩
  | cons v l ih =>
    obtain ⟨h', hx'⟩ := inv_visit hc h hx (hl v List.mem_cons_self)
    refine ih (fun w hw => hl w (List.mem_cons_of_mem _ hw)) ⟨h'.labels.mono ?_, h'.priority,
      h'.vector⟩ hx'
    rintro a b - ⟨hW | ⟨rfl, hb⟩, hne⟩
    · exact Or.inl hW
    · rcases List.mem_cons.1 hb with rfl | hb
      · exact absurd ⟨rfl, rfl⟩ hne
      · exact Or.inr ⟨rfl, hb⟩

omit [IsOrderedAddMonoid K] hc in
/-- A node taken out of the open set has a label, of which its priority was made. -/
theorem label_get {openSet : PrioQueue N K} (h : s.Inv A start goal W)
    (hget : s.openSet.get = some (curr, openSet)) :
    ∃ x, s.gScore.find? curr = some x ∧
      ∀ v p, s.openSet.Holds v p → x + A.heuristic curr goal ≤ p := by
  obtain ⟨⟨p, hp, hmin⟩, -⟩ := PrioQueue.holds_get hget
  obtain ⟨x, hx, rfl⟩ := h.priority curr p hp
  exact ⟨x, hx, hmin⟩

/-- **One round of the main loop keeps the invariant.** -/
theorem inv_expand {openSet : PrioQueue N K} (h : s.Inv A start goal Labels.nowhere)
    (hget : s.openSet.get = some (curr, openSet)) :
    (A.expand goal curr { s with openSet }).Inv A start goal Labels.nowhere := by
  obtain ⟨x, hx, -⟩ := label_get h hget
  have h' := inv_touch (inv_get h hget) curr
  refine inv_foldl_visit hc _ (fun v hv => ?_) ⟨h'.labels.mono ?_, h'.priority, h'.vector⟩ hx
  · show v ∈ A.neighbors.vector curr
    rwa [← h.vector]
  · rintro a b hE (hW | rfl)
    · exact Or.inl hW
    · exact Or.inr ⟨rfl, by rw [h.vector]; exact hE⟩

/-- Visiting neighbors opens every node it labels. -/
theorem goalOpen_foldl_visit {x : K} (l : List N) (hl : ∀ v ∈ l, A.Edge curr v)
    (h : s.Inv A start goal W) (hx : s.gScore.find? curr = some x) (hg : s.GoalOpen goal) :
    (l.foldl (A.visit goal curr) s).GoalOpen goal := by
  induction l generalizing s W with
  | nil => exact hg
  | cons v l ih =>
    obtain ⟨h', hx'⟩ := inv_visit hc h hx (hl v List.mem_cons_self)
    refine ih (fun w hw => hl w (List.mem_cons_of_mem _ hw)) h' hx' ?_
    rcases visit_cases v h hx with ⟨heq, -⟩ | ⟨-, hlab, -⟩
    · rwa [heq]
    · intro y hy
      rw [hlab] at hy ⊢
      by_cases hv : goal = v
      · exact Or.inl hv
      · exact Or.inr (hg y (by simpa [hv] using hy))

theorem goalOpen_expand {openSet : PrioQueue N K} (h : s.Inv A start goal Labels.nowhere)
    (hget : s.openSet.get = some (curr, openSet)) (hg : s.GoalOpen goal) (hne : curr ≠ goal) :
    (A.expand goal curr { s with openSet }).GoalOpen goal := by
  obtain ⟨x, hx, -⟩ := label_get h hget
  refine goalOpen_foldl_visit hc _ (fun v hv => ?_) (inv_touch (inv_get h hget) curr) hx ?_
  · show v ∈ A.neighbors.vector curr
    rwa [← h.vector]
  · intro y hy
    show goal ∈ ({ s with openSet } : SearchState N K).labels.opened
    rw [labels_get hget, Labels.mem_opened_settle]
    exact ⟨hg y hy, hne.symm⟩

omit [DecidableEq N] hc in
/-- Following the parents from a labelled node back to the start gives a walk that costs no more
than the label. -/
theorem reconstruct_spec (h : s.labels.Inv A.Edge A.travelCost start W) {fuel : ℕ} {path p : List N}
    {x y : K} (hwalk : Walk A.Edge curr goal path) (hx : s.gScore.find? curr = some x)
    (hle : x + cost A.travelCost path ≤ y)
    (hp : reconstruct s.cameFrom fuel curr path = some p) :
    Walk A.Edge start goal p ∧ cost A.travelCost p ≤ y := by
  induction fuel generalizing curr path x with
  | zero => cases hp
  | succ fuel ih =>
    rw [reconstruct] at hp
    cases hparent : s.cameFrom.find? curr with
    | none =>
      obtain rfl := h.root curr x hx hparent
      obtain rfl : path = p := by simpa [hparent] using hp
      obtain rfl : x = 0 := by
        have := hx.symm.trans h.start_label
        exact Option.some.inj this
      exact ⟨hwalk, by simpa using hle⟩
    | some prev =>
      rw [hparent] at hp
      obtain ⟨hE, z, x', hz, hx', hzx⟩ := h.parent_label prev curr hparent
      obtain rfl : x' = x := Option.some.inj (hx'.symm.trans hx)
      refine ih (.cons hE hwalk) hz ?_ hp
      rw [cost_cons _ hwalk, ← add_assoc]
      exact (add_le_add_left hzx _).trans hle

omit [DecidableEq N] hc in
/-- When the goal comes first in the open set, its label is at most the cost of every walk. -/
theorem label_goal_le (h : s.Inv A start goal Labels.nowhere) (hadm : A.Admissible goal)
    (hgoal : 0 ≤ A.heuristic goal goal) {x : K}
    (hmin : ∀ v p, s.openSet.Holds v p → x + A.heuristic goal goal ≤ p)
    (hopen : goal ∈ s.labels.opened) {q : List N} (hq : Walk A.Edge start goal q) :
    x ≤ cost A.travelCost q := by
  obtain ⟨v, p, g, ⟨r, hr⟩, hp, hg, hle⟩ := h.labels.exists_opened hq h.labels.start_label hopen
  obtain ⟨g', hg', rfl⟩ := h.priority v r hr
  obtain rfl : g' = g := Option.some.inj (hg'.symm.trans hg)
  calc x ≤ x + A.heuristic goal goal := le_add_of_nonneg_right hgoal
    _ ≤ g' + A.heuristic v goal := hmin v _ hr
    _ ≤ g' + cost A.travelCost p := by gcongr; exact hadm v p hp
    _ ≤ 0 + cost A.travelCost q := hle
    _ = cost A.travelCost q := zero_add _

/-- **What a search that returns has found**, and the neighbor map it leaves. -/
theorem loop_sound (h : s.Inv A start goal Labels.nowhere) (hg : s.GoalOpen goal) {fuel : ℕ}
    {path : List N} {s' : SearchState N K} (hloop : A.loop goal fuel s = some (path, s')) :
    (∀ u, s'.neighbors.vector u = A.neighbors.vector u) ∧
    ((path = [] ∧ ¬ Relation.ReflTransGen A.Edge start goal) ∨
      (Walk A.Edge start goal path ∧
        (A.Admissible goal → 0 ≤ A.heuristic goal goal →
          IsShortest A.Edge A.travelCost start goal path))) := by
  induction fuel generalizing s with
  | zero => cases hloop
  | succ fuel ih =>
    rw [loop] at hloop
    cases hget : s.openSet.get with
    | none =>
      obtain ⟨rfl, rfl⟩ : path = [] ∧ s' = s := by simpa [hget, eq_comm] using hloop
      have hopen : ∀ v, v ∉ s'.labels.opened := fun v ⟨p, hp⟩ =>
        PrioQueue.get_eq_none.1 hget v p hp
      refine ⟨h.vector, Or.inl ⟨rfl, fun hreach => ?_⟩⟩
      obtain ⟨x, hx⟩ := h.labels.reachable_label hopen hreach
      exact hopen goal (hg x hx)
    | some r =>
      obtain ⟨curr, openSet⟩ := r
      simp only [hget] at hloop
      split_ifs at hloop with hcurr
      · subst hcurr
        obtain ⟨p, hp, hps⟩ := Option.map_eq_some_iff.1 hloop
        obtain ⟨rfl, rfl⟩ := Prod.mk.inj hps
        obtain ⟨x, hx, hmin⟩ := label_get h hget
        have hopen : curr ∈ s.labels.opened :=
          (PrioQueue.holds_get hget).1.imp fun p hp => hp.1
        obtain ⟨hwalk, hcost⟩ := reconstruct_spec h.labels (.nil curr) hx
          (show x + cost A.travelCost [curr] ≤ x by simp) hp
        refine ⟨h.vector, Or.inr ⟨hwalk, fun hadm hgoal => ⟨hwalk, fun q hq => ?_⟩⟩⟩
        exact hcost.trans (label_goal_le h hadm hgoal hmin hopen hq)
      · exact ih (inv_expand hc h hget) (goalOpen_expand hc h hget hg hcurr) hloop

/-! ### Termination -/

/-- Visiting neighbors leaves the state alone or leaves fewer walks that would improve a label. -/
theorem foldl_visit_eq_or_lt (hfin : {v | Relation.ReflTransGen A.Edge start v}.Finite) {x : K}
    (l : List N) (hl : ∀ v ∈ l, A.Edge curr v) (h : s.Inv A start goal W)
    (hx : s.gScore.find? curr = some x) :
    l.foldl (A.visit goal curr) s = s ∨
      ((l.foldl (A.visit goal curr) s).labels.improvable A.Edge A.travelCost start).ncard <
        (s.labels.improvable A.Edge A.travelCost start).ncard := by
  induction l generalizing s W with
  | nil => exact Or.inl rfl
  | cons v l ih =>
    have hE := hl v List.mem_cons_self
    obtain ⟨h', hx'⟩ := inv_visit hc h hx hE
    have hrest := ih (fun w hw => hl w (List.mem_cons_of_mem _ hw)) h' hx'
    rcases visit_cases v h hx with ⟨heq, -⟩ | ⟨himp, hlab, -⟩
    · rw [heq] at hrest
      rwa [List.foldl_cons, heq]
    · have hlt := h.labels.ncard_improvable_relax hc hfin hx hE himp
      rw [← hlab] at hlt
      rcases hrest with hrest | hrest
      · exact Or.inr (by rw [List.foldl_cons, hrest]; exact hlt)
      · exact Or.inr (hrest.trans hlt)

/-- A round of the main loop makes the pair of measures smaller. -/
theorem expand_lt (hfin : {v | Relation.ReflTransGen A.Edge start v}.Finite)
    {openSet : PrioQueue N K} (h : s.Inv A start goal Labels.nowhere)
    (hget : s.openSet.get = some (curr, openSet)) :
    ((A.expand goal curr { s with openSet }).labels.improvable A.Edge A.travelCost start).ncard <
        (s.labels.improvable A.Edge A.travelCost start).ncard ∨
      ((A.expand goal curr { s with openSet }).labels.improvable A.Edge A.travelCost start).ncard =
          (s.labels.improvable A.Edge A.travelCost start).ncard ∧
        (A.expand goal curr { s with openSet }).openSet.size < s.openSet.size := by
  obtain ⟨x, hx, -⟩ := label_get h hget
  have hsize := (PrioQueue.holds_get hget).2.2
  rcases foldl_visit_eq_or_lt hc hfin (s.neighbors.vector curr)
    (fun v hv => by show v ∈ A.neighbors.vector curr; rwa [← h.vector])
    (inv_touch (inv_get h hget) curr) hx with heq | hlt
  · refine Or.inr ⟨?_, ?_⟩
    · rw [expand, heq]; rfl
    · rw [expand, heq]
      show openSet.size < s.openSet.size
      omega
  · exact Or.inl hlt

omit [DecidableEq N] [AddCommGroup K] [LinearOrder K] [IsOrderedAddMonoid K] hc in
/-- Walking back along the parents ends, with the same path for every fuel that is enough. -/
theorem reconstruct_terminates {cameFrom : UnorderedMap N N} {L : Labels N K}
    (hL : L.parent = cameFrom.find?) (hwf : WellFounded L.IsParent) (curr : N) (path : List N) :
    ∃ fuel₀ p, ∀ fuel ≥ fuel₀, reconstruct cameFrom fuel curr path = some p := by
  induction curr using hwf.induction generalizing path with
  | _ curr ih =>
    cases hparent : cameFrom.find? curr with
    | none =>
      refine ⟨1, path, fun fuel hfuel => ?_⟩
      obtain ⟨fuel, rfl⟩ := Nat.exists_eq_add_of_le' hfuel
      simp [reconstruct, hparent]
    | some prev =>
      obtain ⟨fuel₀, p, h₀⟩ := ih prev (by rw [Labels.IsParent, hL, hparent]) (prev :: path)
      refine ⟨fuel₀ + 1, p, fun fuel hfuel => ?_⟩
      obtain ⟨fuel, rfl⟩ := Nat.exists_eq_add_of_le' (show 1 ≤ fuel by omega)
      simpa [reconstruct, hparent] using h₀ fuel (by omega)

/-- **The main loop ends**: a round either leaves fewer walks that would improve a label, or
leaves all labels alone and one node less in the queue. -/
theorem loop_terminates (hfin : {v | Relation.ReflTransGen A.Edge start v}.Finite)
    (h : s.Inv A start goal Labels.nowhere) :
    ∃ fuel₀ r, ∀ fuel ≥ fuel₀, A.loop goal fuel s = some r := by
  -- induction on the two measures, ordered lexicographically
  obtain ⟨m, hm⟩ : ∃ m, m = ((s.labels.improvable A.Edge A.travelCost start).ncard,
    s.openSet.size) := ⟨_, rfl⟩
  induction m using (Nat.lt_wfRel.wf.prod_lex Nat.lt_wfRel.wf).induction generalizing s with
  | _ m ih =>
    cases hget : s.openSet.get with
    | none =>
      refine ⟨1, ([], s), fun fuel hfuel => ?_⟩
      obtain ⟨fuel, rfl⟩ := Nat.exists_eq_add_of_le' hfuel
      simp [loop, hget]
    | some r =>
      obtain ⟨curr, openSet⟩ := r
      obtain ⟨fuel₀, r, h₀⟩ : ∃ fuel₀ r, ∀ fuel ≥ fuel₀,
          (if curr = goal then
            (reconstruct s.cameFrom fuel curr [curr]).map (·, { s with openSet })
          else A.loop goal fuel (A.expand goal curr { s with openSet })) = some r := by
        by_cases hcurr : curr = goal
        · obtain ⟨fuel₀, p, h₀⟩ := reconstruct_terminates (L := s.labels) rfl
            (h.labels.parent_wellFounded hfin) curr [curr]
          refine ⟨fuel₀, (p, { s with openSet }), fun fuel hfuel => ?_⟩
          rw [if_pos hcurr, h₀ fuel hfuel]
          rfl
        · simp only [if_neg hcurr]
          refine ih _ ?_ (inv_expand hc h hget) rfl
          rw [hm, Prod.lex_def]
          exact expand_lt hc hfin h hget
      refine ⟨fuel₀ + 1, r, fun fuel hfuel => ?_⟩
      obtain ⟨fuel, rfl⟩ := Nat.exists_eq_add_of_le' (show 1 ≤ fuel by omega)
      simpa [loop, hget] using h₀ fuel (by omega)

omit [DecidableEq N] [AddCommGroup K] [LinearOrder K] [IsOrderedAddMonoid K] hc in
/-- With finitely many keys, every one of which has a vector of neighbors, finitely many nodes can
be reached. -/
theorem finite_reachable (hkeys : A.neighbors.keys.Finite) (start : N) :
    {v | Relation.ReflTransGen A.Edge start v}.Finite := by
  refine (((hkeys.biUnion fun u _ =>
    (List.finite_toSet (A.neighbors.vector u))).insert start)).subset fun v hv => ?_
  rcases Relation.ReflTransGen.cases_tail hv with rfl | ⟨u, -, hE⟩
  · exact Set.mem_insert ..
  · refine Set.mem_insert_of_mem _ (Set.mem_biUnion ?_ hE)
    rw [UnorderedMap.mem_keys]
    refine Option.ne_none_iff_exists'.1 fun hnone => ?_
    have hmem : v ∈ A.neighbors.vector u := hE
    simp [UnorderedMap.vector, hnone] at hmem

/-- **The search, whatever the heuristic**: it returns, leaves a neighbor map that reads as before,
and its path is empty or a walk to the goal. -/
theorem search_spec (hkeys : A.neighbors.keys.Finite) (start goal : N) :
    ∃ fuel₀ path A', (∀ fuel ≥ fuel₀, A.search fuel start goal = some (path, A')) ∧
      A'.heuristic = A.heuristic ∧ A'.travelCost = A.travelCost ∧
      (∀ u, A'.neighbors.vector u = A.neighbors.vector u) ∧
      ((path = [] ∧ ¬ Relation.ReflTransGen A.Edge start goal) ∨
        (Walk A.Edge start goal path ∧
          (A.Admissible goal → 0 ≤ A.heuristic goal goal →
            IsShortest A.Edge A.travelCost start goal path))) := by
  have hinv := inv_initState A start goal
  obtain ⟨fuel₀, ⟨path, s⟩, h₀⟩ := loop_terminates hc (finite_reachable hkeys start) hinv
  obtain ⟨hvec, hpath⟩ := loop_sound hc hinv goalOpen_initState (h₀ fuel₀ le_rfl)
  refine ⟨fuel₀, path, { A with neighbors := s.neighbors }, fun fuel hfuel => ?_, rfl, rfl,
    hvec, hpath⟩
  rw [search, h₀ fuel hfuel]
  rfl

/-- **A\* is correct.**  With finitely many keys, costs that are not negative on the edges, and an
admissible heuristic whose estimate at the goal itself is not negative, `search` returns; its path
is empty exactly if the goal cannot be reached, and otherwise it is a walk of least cost. -/
theorem search_optimal (hkeys : A.neighbors.keys.Finite) (hadm : A.Admissible goal)
    (hgoal : 0 ≤ A.heuristic goal goal) :
    ∃ fuel₀ path A', (∀ fuel ≥ fuel₀, A.search fuel start goal = some (path, A')) ∧
      (path = [] ↔ ¬ Relation.ReflTransGen A.Edge start goal) ∧
      (path ≠ [] → IsShortest A.Edge A.travelCost start goal path) := by
  obtain ⟨fuel₀, path, A', hret, -, -, -, hpath⟩ := search_spec hc hkeys start goal
  refine ⟨fuel₀, path, A', hret, ?_⟩
  rcases hpath with ⟨rfl, hreach⟩ | ⟨hwalk, hopt⟩
  · exact ⟨iff_of_true rfl hreach, fun h => absurd rfl h⟩
  · exact ⟨iff_of_false hwalk.ne_nil (not_not_intro hwalk.reachable), fun _ => hopt hadm hgoal⟩

end Search

/-- Three nodes: the edge from 0 to 2 costs 10, the way over 1 costs 2.  Only the estimate at the
goal 2 is negative. -/
def detour (estimate : ℤ) : AStar (Fin 3) ℤ where
  neighbors := ((UnorderedMap.empty.pushBack 0 2).pushBack 0 1).pushBack 1 2
  heuristic v goal := if v = 2 ∧ goal = 2 then estimate else 0
  travelCost u v := if u = 0 ∧ v = 2 then 10 else 1

theorem detour_keys_finite (estimate : ℤ) : (detour estimate).neighbors.keys.Finite :=
  Set.toFinite _

theorem detour_travelCost_nonneg (estimate : ℤ) (u v : Fin 3) :
    0 ≤ (detour estimate).travelCost u v := by
  simp only [detour]
  split_ifs <;> decide

theorem detour_admissible {estimate : ℤ} (h : estimate ≤ 0) : (detour estimate).Admissible 2 := by
  intro v p hp
  refine le_trans ?_ (cost_nonneg (fun u v _ => detour_travelCost_nonneg estimate u v) hp)
  simp only [detour]
  split_ifs
  · exact h
  · exact le_rfl

theorem search_optimal_detour :
    ∃ fuel₀ path A', (∀ fuel ≥ fuel₀, (detour 0).search fuel 0 2 = some (path, A')) ∧
      (path = [] ↔ ¬ Relation.ReflTransGen (detour 0).Edge 0 2) ∧
      (path ≠ [] → IsShortest (detour 0).Edge (detour 0).travelCost 0 2 path) :=
  search_optimal (fun u v _ => detour_travelCost_nonneg 0 u v) (detour_keys_finite 0)
    (detour_admissible le_rfl) (by decide)

/-- With the estimate -100 at the goal, which overestimates nothing, the search takes the edge that
costs 10. -/
theorem search_negative_goal_estimate :
    (detour (-100)).neighbors.keys.Finite ∧
    (∀ u v, (detour (-100)).Edge u v → 0 ≤ (detour (-100)).travelCost u v) ∧
    (detour (-100)).Admissible 2 ∧
    (∀ fuel, ((detour (-100)).search (fuel + 4) 0 2).map Prod.fst = some [0, 2]) ∧
    ¬ IsShortest (detour (-100)).Edge (detour (-100)).travelCost 0 2 [0, 2] := by
  refine ⟨detour_keys_finite _, fun u v _ => detour_travelCost_nonneg _ u v,
    detour_admissible (by decide), fun fuel => rfl, fun h => ?_⟩
  have hwalk : Walk (detour (-100)).Edge 0 2 [0, 1, 2] :=
    .cons (show 1 ∈ (detour (-100)).neighbors.vector 0 by decide)
      (.cons (show 2 ∈ (detour (-100)).neighbors.vector 1 by decide) (.nil 2))
  exact absurd (h.2 _ hwalk) (by decide)

end Aimbots.Pathfinding.AStar
