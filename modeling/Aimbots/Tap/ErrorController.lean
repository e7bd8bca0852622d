import Aimbots.Library.Run
import Aimbots.Tap.BoundedDeque
import Mathlib.Data.List.Nodup

/-!
# `tap/errors/error_controller.cpp`: the list of errors

`RAISE_ERROR` adds an error to a bounded deque unless it is in it, and the terminal removes errors
by their index.  `errors_run` says what the list is after any errors and removals: the errors in the
order in which they were raised, none of them twice, and, when there were too many, the oldest are
gone.
-/

namespace Aimbots.Tap

open Run (after)

/-- `SystemError`.  The texts are literals, which are compared as pointers. -/
structure SystemError where
  lineNumber : ℤ
  description : String
  filename : String
deriving DecidableEq, Repr

/-- `ERROR_LIST_MAX_SIZE`. -/
def ERROR_LIST_MAX_SIZE : ℕ := 16

instance : NeZero ERROR_LIST_MAX_SIZE := ⟨by decide⟩

/-- `ErrorController`. -/
structure ErrorController where
  errorList : BoundedDeque SystemError ERROR_LIST_MAX_SIZE

/-- What is done with the list of errors. -/
inductive ErrorEvent where
  | addToErrorList (error : SystemError)
  | removeSystemErrorAtIndex (index : ℕ)
  | removeAllSystemErrors
deriving DecidableEq, Repr

namespace ErrorController

/-- The constructor: each slot holds a default error. -/
def construct : ErrorController := ⟨.construct fun _ => ⟨0, "default", "none"⟩⟩

/-- The two errors are the same for `addToErrorList`. -/
def same (sysErr error : SystemError) : Bool :=
  decide (sysErr.description = error.description) && decide (sysErr.filename = error.filename) &&
    decide (sysErr.lineNumber = error.lineNumber)

/-- `addToErrorList`. -/
def addToErrorList (c : ErrorController) (error : SystemError) : ErrorController :=
  if c.errorList.contents.any fun sysErr => same sysErr error then c
  else
    let errorList :=
      if ERROR_LIST_MAX_SIZE ≤ c.errorList.size then c.errorList.removeFront else c.errorList
    ⟨errorList.append error⟩

/-- The loop of `removeSystemErrorAtIndex`, with `rest` turns to go. -/
def rotate (index : ℕ) : ℕ → ℕ → BoundedDeque SystemError ERROR_LIST_MAX_SIZE →
    BoundedDeque SystemError ERROR_LIST_MAX_SIZE
  | 0, _, errorList => errorList
  | rest + 1, i, errorList =>
    let se := errorList.getFront
    let errorList := errorList.removeFront
    rotate index rest (i + 1) (if i ≠ index then errorList.append se else errorList)

/-- `removeSystemErrorAtIndex`, and whether there was such an error. -/
def removeSystemErrorAtIndex (c : ErrorController) (index : ℕ) : Bool × ErrorController :=
  if c.errorList.size ≤ index then (false, c)
  else if index = 0 then (true, ⟨c.errorList.removeFront⟩)
  else if index = c.errorList.size - 1 then (true, ⟨c.errorList.removeBack⟩)
  else (true, ⟨rotate index c.errorList.size 0 c.errorList⟩)

/-- The loop of `removeAllSystemErrors`. -/
def removeBacks : ℕ → BoundedDeque SystemError ERROR_LIST_MAX_SIZE →
    BoundedDeque SystemError ERROR_LIST_MAX_SIZE
  | 0, errorList => errorList
  | turns + 1, errorList =>
    if 0 < errorList.size then removeBacks turns errorList.removeBack else errorList

/-- `removeAllSystemErrors`: the loop ends when the list is empty. -/
def removeAllSystemErrors (c : ErrorController) : ErrorController :=
  ⟨removeBacks c.errorList.size c.errorList⟩

/-- One event. -/
def step (c : ErrorController) : ErrorEvent → ErrorController
  | .addToErrorList error => c.addToErrorList error
  | .removeSystemErrorAtIndex index => (c.removeSystemErrorAtIndex index).2
  | .removeAllSystemErrors => c.removeAllSystemErrors

/-! ### What the list is -/

/-- The errors that are left of some, by what is done with them. -/
def listed (errors : List SystemError) : ErrorEvent → List SystemError
  | .addToErrorList error =>
    if error ∈ errors then errors
    else (if ERROR_LIST_MAX_SIZE ≤ errors.length then errors.tail else errors) ++ [error]
  | .removeSystemErrorAtIndex index => errors.eraseIdx index
  | .removeAllSystemErrors => []

theorem same_iff (sysErr error : SystemError) : same sysErr error = true ↔ sysErr = error := by
  rw [same, Bool.and_eq_true, Bool.and_eq_true, decide_eq_true_eq, decide_eq_true_eq,
    decide_eq_true_eq]
  constructor
  · rintro ⟨⟨hdescription, hfilename⟩, hline⟩
    cases sysErr
    cases error
    simp_all
  · rintro rfl
    exact ⟨⟨rfl, rfl⟩, rfl⟩

variable {d : BoundedDeque SystemError ERROR_LIST_MAX_SIZE} {errors : List SystemError}
  {c : ErrorController} {index : ℕ}

/-- The deque is a queue of these errors. -/
structure Holds (d : BoundedDeque SystemError ERROR_LIST_MAX_SIZE) (errors : List SystemError) :
    Prop where
  queue : d.IsQueue
  contents : d.contents = errors

theorem Holds.size (h : Holds d errors) : d.size = errors.length := by
  rw [← h.contents, BoundedDeque.length_contents]

theorem Holds.append (h : Holds d errors) (hsize : errors.length < ERROR_LIST_MAX_SIZE)
    (error : SystemError) : Holds (d.append error) (errors ++ [error]) := by
  obtain ⟨hqueue, hcontents⟩ := h.queue.append (h.size ▸ hsize) error
  exact ⟨hqueue, h.contents ▸ hcontents⟩

theorem Holds.removeFront {error : SystemError} (h : Holds d (error :: errors)) :
    Holds d.removeFront errors ∧ d.getFront = error := by
  obtain ⟨hqueue, hcontents⟩ := h.queue.removeFront (h.size ▸ Nat.succ_pos _)
  rw [h.contents] at hcontents
  exact ⟨⟨hqueue, (List.cons.inj hcontents).2.symm⟩, (List.cons.inj hcontents).1.symm⟩

theorem Holds.removeBack (h : Holds d errors) (hne : errors ≠ []) :
    Holds d.removeBack errors.dropLast := by
  obtain ⟨hqueue, hcontents⟩ := h.queue.removeBack (h.size ▸ List.length_pos_iff.2 hne)
  rw [h.contents] at hcontents
  rw [hcontents, List.dropLast_concat]
  exact ⟨hqueue, rfl⟩

theorem eraseIdx_concat {turned : List SystemError} (hindex : turned.length ≠ index)
    (error : SystemError) :
    (turned ++ [error]).eraseIdx index = turned.eraseIdx index ++ [error] := by
  rcases lt_or_gt_of_ne hindex with hlt | hgt
  · rw [List.eraseIdx_of_length_le hlt.le, List.eraseIdx_of_length_le]
    rw [List.length_append, List.length_singleton]
    exact hlt
  · exact List.eraseIdx_append_of_lt_length hgt [error]

/-- **The loop that turns the queue around**: what has been turned is at its back, without the error
at the index. -/
theorem Holds.rotate (index : ℕ) (rest turned : List SystemError) (hd : Holds d
    (rest ++ turned.eraseIdx index)) (hlength : rest.length + turned.length ≤ ERROR_LIST_MAX_SIZE) :
    Holds (rotate index rest.length turned.length d) ((turned ++ rest).eraseIdx index) := by
  induction rest generalizing turned d with
  | nil =>
    rw [List.append_nil]
    exact hd
  | cons error rest ih =>
    obtain ⟨hremoved, hfront⟩ := hd.removeFront
    have hsplit : turned ++ error :: rest = (turned ++ [error]) ++ rest := by
      rw [List.append_assoc]
      rfl
    have hlength' : rest.length + (turned ++ [error]).length ≤ ERROR_LIST_MAX_SIZE := by
      rw [List.length_append, List.length_singleton]
      rw [List.length_cons] at hlength
      omega
    have hturned : turned.length + 1 = (turned ++ [error]).length := by
      rw [List.length_append, List.length_singleton]
    rw [hsplit, List.length_cons, ErrorController.rotate, hfront, hturned]
    refine ih (turned ++ [error]) ?_ hlength'
    have hroom : (rest ++ turned.eraseIdx index).length < ERROR_LIST_MAX_SIZE := by
      have := List.length_eraseIdx_le turned index
      rw [List.length_cons] at hlength
      rw [List.length_append]
      omega
    by_cases hindex : turned.length = index
    · rw [if_neg (not_not_intro hindex), ← hindex, List.eraseIdx_append_of_length_le le_rfl,
        Nat.sub_self, List.eraseIdx_cons_zero, List.append_nil]
      rwa [← hindex, List.eraseIdx_of_length_le le_rfl] at hremoved
    · rw [if_pos hindex, eraseIdx_concat hindex, ← List.append_assoc]
      exact hremoved.append hroom error

theorem Holds.removeSystemErrorAtIndex (h : Holds c.errorList errors) (index : ℕ) :
    Holds (c.removeSystemErrorAtIndex index).2.errorList (errors.eraseIdx index) := by
  rw [ErrorController.removeSystemErrorAtIndex, h.size]
  by_cases hsize : errors.length ≤ index
  · rw [if_pos hsize, List.eraseIdx_of_length_le hsize]
    exact h
  rw [if_neg hsize]
  obtain ⟨error, rest, rfl⟩ := List.exists_cons_of_length_pos (by omega : 0 < errors.length)
  by_cases hzero : index = 0
  · rw [if_pos hzero, hzero]
    exact h.removeFront.1
  rw [if_neg hzero]
  by_cases hlast : index = (error :: rest).length - 1
  · rw [if_pos hlast, hlast, List.eraseIdx_length_sub_one]
    exact h.removeBack (List.cons_ne_nil _ _)
  · rw [if_neg hlast]
    refine Holds.rotate index (error :: rest) [] ?_ ?_
    · rw [List.eraseIdx_nil, List.append_nil]
      exact h
    · rw [List.length_nil, Nat.add_zero, ← h.size]
      exact h.queue.size_le

theorem Holds.removeBacks (turns : ℕ) (h : Holds d errors) (hturns : errors.length ≤ turns) :
    Holds (removeBacks turns d) [] := by
  induction turns generalizing d errors with
  | zero =>
    rw [ErrorController.removeBacks, ← List.length_eq_zero_iff.1 (Nat.le_zero.1 hturns)]
    exact h
  | succ turns ih =>
    rw [ErrorController.removeBacks, h.size]
    by_cases hne : errors = []
    · rw [if_neg (by rw [hne]; exact lt_irrefl 0), ← hne]
      exact h
    · rw [if_pos (List.length_pos_iff.2 hne)]
      refine ih (h.removeBack hne) ?_
      rw [List.length_dropLast]
      omega

theorem Holds.addToErrorList (h : Holds c.errorList errors)
    (hlength : errors.length ≤ ERROR_LIST_MAX_SIZE) (error : SystemError) :
    Holds (c.addToErrorList error).errorList (listed errors (.addToErrorList error)) := by
  have hany : (c.errorList.contents.any fun sysErr => same sysErr error) = true ↔
      error ∈ errors := by
    rw [h.contents, List.any_eq_true]
    constructor
    · rintro ⟨sysErr, hmem, hsame⟩
      exact (same_iff sysErr error).1 hsame ▸ hmem
    · intro hmem
      exact ⟨error, hmem, (same_iff error error).2 rfl⟩
  rw [ErrorController.addToErrorList, listed]
  by_cases hmem : error ∈ errors
  · rw [if_pos (hany.2 hmem), if_pos hmem]
    exact h
  rw [if_neg (fun hin => hmem (hany.1 hin)), if_neg hmem, h.size]
  by_cases hfull : ERROR_LIST_MAX_SIZE ≤ errors.length
  · rw [if_pos hfull, if_pos hfull]
    obtain ⟨oldest, rest, rfl⟩ := List.exists_cons_of_length_pos
      (lt_of_lt_of_le (by decide : 0 < ERROR_LIST_MAX_SIZE) hfull)
    exact h.removeFront.1.append (Nat.lt_of_succ_le hlength) error
  · rw [if_neg hfull, if_neg hfull]
    exact h.append (not_le.1 hfull) error

/-! ### The bound, and that no error is in the list twice -/

theorem length_listed (hlength : errors.length ≤ ERROR_LIST_MAX_SIZE) (event : ErrorEvent) :
    (listed errors event).length ≤ ERROR_LIST_MAX_SIZE := by
  cases event with
  | addToErrorList error =>
    rw [listed]
    split
    · exact hlength
    · rw [List.length_append, List.length_singleton]
      split
      · rw [List.length_tail]
        have : 0 < ERROR_LIST_MAX_SIZE := by decide
        omega
      · omega
  | removeSystemErrorAtIndex index => exact (List.length_eraseIdx_le errors index).trans hlength
  | removeAllSystemErrors => exact Nat.zero_le _

theorem nodup_listed (hnodup : errors.Nodup) (event : ErrorEvent) :
    (listed errors event).Nodup := by
  cases event with
  | addToErrorList error =>
    rw [listed]
    split
    · exact hnodup
    · rename_i hmem
      refine List.nodup_append.2 ⟨?_, List.nodup_singleton error, ?_⟩
      · split
        · exact hnodup.sublist (List.tail_sublist errors)
        · exact hnodup
      · intro other hother new hnew heq
        rw [List.mem_singleton] at hnew
        refine hmem (hnew ▸ heq ▸ ?_)
        split at hother
        · exact List.mem_of_mem_tail hother
        · exact hother
  | removeSystemErrorAtIndex index => exact hnodup.sublist (List.eraseIdx_sublist errors index)
  | removeAllSystemErrors => exact List.nodup_nil

/-- The controller's list is these errors, as the code keeps them. -/
structure Keeps (c : ErrorController) (errors : List SystemError) : Prop where
  holds : Holds c.errorList errors
  length : errors.length ≤ ERROR_LIST_MAX_SIZE
  nodup : errors.Nodup

theorem Keeps.step (h : Keeps c errors) (event : ErrorEvent) :
    Keeps (step c event) (listed errors event) := by
  refine ⟨?_, length_listed h.length event, nodup_listed h.nodup event⟩
  cases event with
  | addToErrorList error => exact h.holds.addToErrorList h.length error
  | removeSystemErrorAtIndex index => exact h.holds.removeSystemErrorAtIndex index
  | removeAllSystemErrors => exact h.holds.removeBacks c.errorList.size h.holds.size.ge

theorem Keeps.run (h : Keeps c errors) (events : List ErrorEvent) :
    Keeps (after ErrorController.step c events) (events.foldl listed errors) := by
  induction events generalizing c errors with
  | nil => exact h
  | cons event events ih =>
    rw [Run.after_cons, List.foldl_cons]
    exact ih (h.step event)

end ErrorController

end Aimbots.Tap
