import Mathlib.Logic.Function.Iterate
import Mathlib.Tactic.Common

/-!
# Round robin

The indices `0, …, n − 1` in a circle.  `search p fuel t` goes around from `t` to the first index
that has `p`, and `distance s t` says how far `t` is behind `s`.  A search that passes an index
comes closer to it (`distance_search_lt`), so that none is passed `n` times.
-/

namespace Aimbots.RoundRobin

variable {n : ℕ} {p : Fin n → Bool} {s t u : Fin n}

/-- The index after another one. -/
def next (t : Fin n) : Fin n := ⟨(t + 1) % n, Nat.mod_lt _ t.pos⟩

theorem val_iterate_next (k : ℕ) (t : Fin n) : (next^[k] t : ℕ) = (t + k) % n := by
  induction k generalizing t with
  | zero => exact (Nat.mod_eq_of_lt t.isLt).symm
  | succ k ih =>
    have hnext : (next t : ℕ) = (t + 1) % n := rfl
    rw [Function.iterate_succ_apply, ih, hnext, Nat.mod_add_mod, Nat.add_assoc, Nat.add_comm 1 k]

/-- The number of steps from `s` to `t`, which is that of a full circle from an index to itself. -/
def distance (s t : Fin n) : ℕ := if s < t then t - s else n + t - s

theorem distance_pos : 0 < distance s t := by
  unfold distance
  split_ifs with h
  · exact Nat.sub_pos_of_lt h
  · omega

theorem distance_le : distance s t ≤ n := by
  unfold distance
  split_ifs <;> omega

theorem iterate_distance (s t : Fin n) : next^[distance s t] s = t := by
  apply Fin.ext
  rw [val_iterate_next, distance]
  split_ifs with h
  · rw [Nat.add_sub_cancel' (Nat.le_of_lt h), Nat.mod_eq_of_lt t.isLt]
  · have hsum : (s : ℕ) + (n + t - s) = n + t := by omega
    rw [hsum, Nat.add_mod_left, Nat.mod_eq_of_lt t.isLt]

theorem distance_le_of_iterate {k : ℕ} (hk : 0 < k) (h : next^[k] s = t) : distance s t ≤ k := by
  have hval : (s + k : ℕ) % n = t := by rw [← val_iterate_next, h]
  have hle : (t : ℕ) ≤ s + k := hval ▸ Nat.mod_le _ _
  unfold distance
  split_ifs with hst
  · omega
  · have hlt : ¬ (s + k : ℕ) < n := fun hlt => by
      rw [Nat.mod_eq_of_lt hlt] at hval
      omega
    have hagain : (s + k - n : ℕ) % n = t := by rw [← Nat.mod_eq_sub_mod (by omega), hval]
    have hle' : (t : ℕ) ≤ s + k - n := hagain ▸ Nat.mod_le _ _
    omega

/-- The search for an index with `p`, which gives up after `fuel` of them. -/
def search (p : Fin n → Bool) : ℕ → Fin n → Option (Fin n)
  | 0, _ => none
  | fuel + 1, t => if p t then some t else search p fuel (next t)

/-- **The search** ends at the first index with `p`. -/
theorem search_eq_some {fuel : ℕ} :
    search p fuel t = some u ↔
      ∃ k < fuel, next^[k] t = u ∧ p u = true ∧ ∀ j < k, p (next^[j] t) = false := by
  induction fuel generalizing t with
  | zero => simp [search]
  | succ fuel ih =>
    rw [search]
    split_ifs with hp
    · constructor
      · intro h
        cases h
        exact ⟨0, Nat.succ_pos _, rfl, hp, fun j hj => absurd hj (Nat.not_lt_zero j)⟩
      · rintro ⟨k, -, hk, -, hbefore⟩
        cases k with
        | zero => rw [← hk]; rfl
        | succ k => exact absurd hp (Bool.not_eq_true _ ▸ hbefore 0 (Nat.succ_pos k))
    · rw [ih]
      constructor
      · rintro ⟨k, hk, hu, hpu, hbefore⟩
        refine ⟨k + 1, Nat.succ_lt_succ hk, hu, hpu, fun j hj => ?_⟩
        cases j with
        | zero => exact Bool.eq_false_iff.2 hp
        | succ j => exact hbefore j (Nat.lt_of_succ_lt_succ hj)
      · rintro ⟨k, hk, hu, hpu, hbefore⟩
        cases k with
        | zero => exact absurd ((congrArg p hu).trans hpu) hp
        | succ k =>
          exact ⟨k, Nat.lt_of_succ_lt_succ hk, hu, hpu,
            fun j hj => hbefore (j + 1) (Nat.succ_lt_succ hj)⟩

theorem search_isSome {fuel k : ℕ} (hk : k < fuel) (hp : p (next^[k] t) = true) :
    (search p fuel t).isSome = true := by
  induction fuel generalizing t k with
  | zero => exact absurd hk (Nat.not_lt_zero k)
  | succ fuel ih =>
    rw [search]
    split_ifs with ht
    · rfl
    · cases k with
      | zero => exact absurd hp ht
      | succ k => exact ih (Nat.lt_of_succ_lt_succ hk) hp

/-- **One circle** is enough to find an index. -/
theorem search_next_isSome (s : Fin n) (hp : p t = true) : (search p n (next s)).isSome = true := by
  have hpos : 0 < distance s t := distance_pos
  have hle : distance s t ≤ n := distance_le
  refine search_isSome (k := distance s t - 1) (by omega) ?_
  rw [← Function.iterate_succ_apply, Nat.succ_eq_add_one, Nat.sub_add_cancel hpos,
    iterate_distance]
  exact hp

/-- **Round robin**: a search that passes an index comes closer to it. -/
theorem distance_search_lt (h : search p n (next s) = some u) (hp : p t = true) (hne : u ≠ t) :
    distance u t < distance s t := by
  obtain ⟨k, -, hu, -, hbefore⟩ := search_eq_some.1 h
  rw [← Function.iterate_succ_apply, Nat.succ_eq_add_one] at hu
  have hpos : 0 < distance s t := distance_pos
  have hafter : k + 1 ≤ distance s t := by
    by_contra hlt
    have hfalse := hbefore (distance s t - 1) (by omega)
    rw [← Function.iterate_succ_apply, Nat.succ_eq_add_one, Nat.sub_add_cancel hpos,
      iterate_distance, hp] at hfalse
    exact Bool.noConfusion hfalse
  have hrest : next^[distance s t - (k + 1)] u = t := by
    rw [← hu, ← Function.iterate_add_apply, Nat.sub_add_cancel hafter, iterate_distance]
  have hne' : distance s t - (k + 1) ≠ 0 := fun hzero => by
    rw [hzero] at hrest
    exact hne hrest
  have hle := distance_le_of_iterate (Nat.pos_of_ne_zero hne') hrest
  omega

end Aimbots.RoundRobin
