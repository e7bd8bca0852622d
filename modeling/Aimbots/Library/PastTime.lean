import Mathlib.Tactic.Common

/-!
# The past of a run

A log lists what has happened, the last first.  `Since P far` says of a log that `P` holds of what
happened last, and of what happened before, as far back as something that is `far`; `WeakSince` does
not ask that there be anything so far back.  The two are the operators "since" and "weak since" of
temporal logic, of `P` and of `far` together with `P`.
-/

namespace Aimbots.PastTime

variable {α β : Type*} {P Q far far' : α → Prop} {x : α} {log : List α}

/-- `P` holds back to something that is far. -/
def Since (P far : α → Prop) : List α → Prop
  | [] => False
  | x :: older => P x ∧ (far x ∨ Since P far older)

/-- `P` holds back to something that is far, or always did. -/
def WeakSince (P far : α → Prop) : List α → Prop
  | [] => True
  | x :: older => P x ∧ (far x ∨ WeakSince P far older)

instance decidableSince [DecidablePred P] [DecidablePred far] : ∀ log, Decidable (Since P far log)
  | [] => isFalse id
  | x :: older =>
    have : Decidable (Since P far older) := decidableSince older
    inferInstanceAs (Decidable (P x ∧ (far x ∨ Since P far older)))

theorem weakSince_cons : WeakSince P far (x :: log) ↔ P x ∧ (far x ∨ WeakSince P far log) := Iff.rfl

theorem Since.mono (h : Since P far log) (hP : ∀ x, P x → Q x) : Since Q far log := by
  induction log with
  | nil => exact h
  | cons x older ih => exact ⟨hP x h.1, h.2.imp_right ih⟩

theorem WeakSince.mono (h : WeakSince P far log) (hP : ∀ x, P x → Q x)
    (hfar : ∀ x, far x → far' x) : WeakSince Q far' log := by
  induction log with
  | nil => trivial
  | cons x older ih => exact ⟨hP x h.1, h.2.imp (hfar x) ih⟩

theorem weakSince_of_forall (h : ∀ x, P x) : WeakSince P far log := by
  induction log with
  | nil => trivial
  | cons x older ih => exact ⟨h x, Or.inr ih⟩

/-- What holds as far back as there is something, and something else that holds back to something
that is far, hold together back to something that is far. -/
theorem Since.and_weak (h : Since P far log) (hweak : WeakSince Q far log) :
    Since (fun x => P x ∧ Q x) far log := by
  induction log with
  | nil => exact h
  | cons x older ih =>
    refine ⟨⟨h.1, hweak.1⟩, ?_⟩
    rcases h.2 with hx | hrest
    · exact Or.inl hx
    · exact hweak.2.imp_right (ih hrest)

theorem weakSince_map (f : β → α) (log : List β) :
    WeakSince P far (log.map f) ↔ WeakSince (fun y => P (f y)) (fun y => far (f y)) log := by
  induction log with
  | nil => exact Iff.rfl
  | cons y older ih => rw [List.map_cons, weakSince_cons, weakSince_cons, ih]

end Aimbots.PastTime
