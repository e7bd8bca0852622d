import Mathlib.Tactic.Common

/-!
# Runs of a system

A system takes one step for each event that reaches it.  `Each next P` says that `P`, a relation
between a state and the event that comes next, holds at every step of a run.  `each_iff_of_inv`
compares two such properties under an invariant, `Each.of_inv` derives one from an invariant, and
`each_iff_forall` says the same with the events before a step and after it.  `exists_of_latch` and
`last_write` are about what stays as it is until a step of a certain kind.
-/

namespace Aimbots.Run

variable {S E : Type*} {next : S → E → S} {P Q Legal : S → E → Prop} {Inv : S → Prop}
  {s : S} {e : E} {events : List E}

/-- The state after some events. -/
def after (next : S → E → S) (s : S) (events : List E) : S := events.foldl next s

@[simp] theorem after_nil : after next s [] = s := rfl

@[simp] theorem after_cons : after next s (e :: events) = after next (next s e) events := rfl

theorem after_append (before : List E) :
    after next s (before ++ events) = after next (after next s before) events :=
  List.foldl_append

/-- `P` holds at every step. -/
def Each (next : S → E → S) (P : S → E → Prop) : S → List E → Prop
  | _, [] => True
  | s, e :: events => P s e ∧ Each next P (next s e) events

@[simp] theorem each_nil : Each next P s [] := trivial

@[simp] theorem each_cons :
    Each next P s (e :: events) ↔ P s e ∧ Each next P (next s e) events := Iff.rfl

instance decidableEach [∀ s e, Decidable (P s e)] : ∀ s events, Decidable (Each next P s events)
  | _, [] => isTrue trivial
  | s, e :: events =>
    have : Decidable (Each next P (next s e) events) := decidableEach (next s e) events
    inferInstanceAs (Decidable (P s e ∧ Each next P (next s e) events))

theorem each_append {before : List E} :
    Each next P s (before ++ events) ↔
      Each next P s before ∧ Each next P (after next s before) events := by
  induction before generalizing s with
  | nil => simp
  | cons e before ih => simp [ih, and_assoc]

theorem each_of_forall (h : ∀ s e, P s e) : Each next P s events := by
  induction events generalizing s with
  | nil => trivial
  | cons e events ih => exact ⟨h s e, ih⟩

theorem inv_after (hstep : ∀ s e, Inv s → Inv (next s e)) (hs : Inv s) :
    Inv (after next s events) := by
  induction events generalizing s with
  | nil => exact hs
  | cons e events ih => exact ih (hstep s e hs)

/-- **Two properties of the steps** are the same of a run if they are the same in the states of an
invariant, and a step that has them keeps it. -/
theorem each_iff_of_inv (hiff : ∀ s e, Inv s → Legal s e → (P s e ↔ Q s e))
    (hnext : ∀ s e, Inv s → Legal s e → Q s e → Inv (next s e)) (hs : Inv s)
    (hlegal : Each next Legal s events) : Each next P s events ↔ Each next Q s events := by
  induction events generalizing s with
  | nil => simp
  | cons e events ih =>
    have hhead := hiff s e hs hlegal.1
    constructor
    · intro h
      have hq := hhead.1 h.1
      exact ⟨hq, (ih (hnext s e hs hlegal.1 hq) hlegal.2).1 h.2⟩
    · intro h
      exact ⟨hhead.2 h.1, (ih (hnext s e hs hlegal.1 h.1) hlegal.2).2 h.2⟩

/-- The same for runs of any events. -/
theorem each_iff_of_step (hiff : ∀ s e, Inv s → (P s e ↔ Q s e))
    (hnext : ∀ s e, Inv s → Q s e → Inv (next s e)) (hs : Inv s) :
    Each next P s events ↔ Each next Q s events :=
  each_iff_of_inv (fun s e h _ => hiff s e h) (fun s e h _ hq => hnext s e h hq) hs
    (each_of_forall (P := fun _ _ => True) fun _ _ => trivial)

/-- What every step from the states of an invariant has, and keeps it, every step of a run has. -/
theorem Each.of_inv (hstep : ∀ s e, Inv s → Legal s e → P s e ∧ Inv (next s e)) (hs : Inv s)
    (hlegal : Each next Legal s events) : Each next P s events := by
  induction events generalizing s with
  | nil => trivial
  | cons e events ih =>
    have hhead := hstep s e hs hlegal.1
    exact ⟨hhead.1, ih hhead.2 hlegal.2⟩

/-- The invariant after a run. -/
theorem Each.inv_after (hstep : ∀ s e, Inv s → Legal s e → Inv (next s e)) (hs : Inv s)
    (hlegal : Each next Legal s events) : Inv (after next s events) := by
  induction events generalizing s with
  | nil => exact hs
  | cons e events ih => exact ih (hstep s e hs hlegal.1) hlegal.2

/-- Events related in pairs: every event is related to those before it that a state has seen. -/
theorem each_of_pairwise {R : E → E → Prop} (Seen : S → E → Prop)
    (hseen : ∀ s e d, Seen (next s e) d → d = e ∨ Seen s d)
    (hs : ∀ d, Seen s d → ∀ e ∈ events, R d e) (hevents : events.Pairwise R) :
    Each next (fun s e => ∀ d, Seen s d → R d e) s events := by
  induction events generalizing s with
  | nil => trivial
  | cons e events ih =>
    obtain ⟨hhead, htail⟩ := List.pairwise_cons.1 hevents
    refine ⟨fun d hd => hs d hd e List.mem_cons_self, ih (fun d hd e' he' => ?_) htail⟩
    rcases hseen s e d hd with rfl | hd
    · exact hhead e' he'
    · exact hs d hd e' (List.mem_cons_of_mem _ he')

theorem each_iff_forall : Each next P s events ↔
    ∀ before e rest, events = before ++ e :: rest → P (after next s before) e := by
  constructor
  · rintro h before e rest rfl
    exact (each_append.1 h).2.1
  · intro h
    induction events generalizing s with
    | nil => trivial
    | cons e events ih =>
      refine ⟨h [] e events rfl, ih fun before e' rest heq => ?_⟩
      exact h (e :: before) e' rest (by rw [heq, List.cons_append])

/-- **A latch**: what a step with `P` cannot be taken in without `Q`, and what lasts until a step
with `Q`.  Up to a step with `P`, that step included, there is one with `Q`. -/
theorem exists_of_latch (hkeep : ∀ s e, Inv s → ¬ Q s e → Inv (next s e))
    (hlatch : ∀ s e, Inv s → P s e → Q s e) (hs : Inv s) (h : P (after next s events) e) :
    ∃ before e' rest, events ++ [e] = before ++ e' :: rest ∧ Q (after next s before) e' := by
  induction events generalizing s with
  | nil => exact ⟨[], e, [], rfl, hlatch s e hs h⟩
  | cons e₁ events ih =>
    by_cases hq : Q s e₁
    · exact ⟨[], e₁, events ++ [e], rfl, hq⟩
    · obtain ⟨before, e', rest, heq, hq'⟩ := ih (hkeep s e₁ hs hq) h
      exact ⟨e₁ :: before, e', rest, by rw [List.cons_append, heq, List.cons_append], hq'⟩

/-- **The last write**: a value that only the steps with `P` change is the one it began with, or the
one that the last of these steps left. -/
theorem last_write {V : Type*} (value : S → V)
    (hkeep : ∀ s e, ¬ P s e → value (next s e) = value s) :
    (Each next (fun s e => ¬ P s e) s events ∧ value (after next s events) = value s) ∨
      ∃ before e rest, events = before ++ e :: rest ∧ P (after next s before) e ∧
        Each next (fun s e => ¬ P s e) (after next s (before ++ [e])) rest ∧
        value (after next s events) = value (after next s (before ++ [e])) := by
  induction events generalizing s with
  | nil => exact Or.inl ⟨trivial, rfl⟩
  | cons e events ih =>
    rcases ih (s := next s e) with ⟨hnone, hvalue⟩ | ⟨before, e', rest, rfl, hp, hnone, hvalue⟩
    · by_cases hp : P s e
      · exact Or.inr ⟨[], e, events, rfl, hp, hnone, hvalue⟩
      · exact Or.inl ⟨⟨hp, hnone⟩, hvalue.trans (hkeep s e hp)⟩
    · exact Or.inr ⟨e :: before, e', rest, rfl, hp, hnone, hvalue⟩

end Aimbots.Run
