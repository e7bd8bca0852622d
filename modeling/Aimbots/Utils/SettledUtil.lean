import Aimbots.Tap.Timeout
import Mathlib.Algebra.Order.Field.Rat
import Mathlib.Algebra.Order.Group.Abs
import Mathlib.Tactic.Linarith

/-!
# `settled_util.hpp`

A `SettledUtil` answers that an error has settled when a timer has run out that starts with the
first call that finds the error within its tolerance, and stops with any call that does not.  The
timer runs for the timeout of the call that starts it, and it does not know the tolerances of the
calls before: what a call is told about its own timeout and tolerance depends on the other calls.

`keeps_iff` says for which times, tolerances and timeouts of a sequence of calls every answer is
right whatever the errors are.
-/

namespace Aimbots.Utils

open Tap

/-- The member of `SettledUtil` that is used. -/
@[ext] structure SettledUtil where
  errorTimer : Timeout
deriving DecidableEq, Repr

namespace SettledUtil

/-- The constructor. -/
def construct : SettledUtil := ⟨.stopped⟩

/-- `isSettled`. -/
def isSettled (s : SettledUtil) (now : UInt32) (error errTolerance : ℚ)
    (errorTimeout : Option UInt32) : SettledUtil × Bool :=
  if |error| < errTolerance then
    if s.errorTimer.isExpired now then (s, true)
    else if s.errorTimer.isStopped then
      (⟨s.errorTimer.restart now (errorTimeout.getD 0)⟩, false)
    else (s, false)
  else (⟨s.errorTimer.stop⟩, false)

variable {s : SettledUtil} {now : UInt32} {error errTolerance : ℚ} {errorTimeout : Option UInt32}

/-- An error out of tolerance stops the timer. -/
theorem isSettled_of_le (h : errTolerance ≤ |error|) :
    s.isSettled now error errTolerance errorTimeout = (⟨s.errorTimer.stop⟩, false) :=
  if_neg (not_lt.2 h)

/-- An error within tolerance starts a timer that is stopped. -/
theorem isSettled_of_stopped (h : |error| < errTolerance)
    (hstopped : s.errorTimer.isRunning = false) :
    s.isSettled now error errTolerance errorTimeout =
      (⟨s.errorTimer.restart now (errorTimeout.getD 0)⟩, false) := by
  simp [isSettled, h, Timeout.isExpired, Timeout.isStopped, hstopped]

/-- An error within tolerance leaves a timer alone that runs, and asks whether it has run out. -/
theorem isSettled_of_running (h : |error| < errTolerance)
    (hrunning : s.errorTimer.isRunning = true) :
    s.isSettled now error errTolerance errorTimeout =
      (s, decide (s.errorTimer.expireTime ≤ now)) := by
  by_cases hexpired : s.errorTimer.expireTime ≤ now <;>
    simp [isSettled, h, Timeout.isExpired, Timeout.isStopped, hrunning, hexpired]

/-- An error has settled if it is within tolerance and the timer has run out. -/
theorem isSettled_iff : (s.isSettled now error errTolerance errorTimeout).2 = true ↔
    |error| < errTolerance ∧ s.errorTimer.isExpired now = true := by
  rw [Timeout.isExpired_iff]
  rcases le_or_gt errTolerance |error| with hout | hin
  · rw [isSettled_of_le hout]
    simp [hout]
  · cases hrunning : s.errorTimer.isRunning with
    | false => simp [isSettled_of_stopped hin hrunning]
    | true => simp [isSettled_of_running hin hrunning, hin]

/-- Only an error within tolerance is settled. -/
theorem abs_lt_of_isSettled (h : (s.isSettled now error errTolerance errorTimeout).2 = true) :
    |error| < errTolerance := (isSettled_iff.1 h).1

/-- A timer that runs after a call has run before it, or the call has started it. -/
theorem isSettled_running
    (h : (s.isSettled now error errTolerance errorTimeout).1.errorTimer.isRunning = true) :
    |error| < errTolerance ∧
      (s.errorTimer.isRunning = true ∧ (s.isSettled now error errTolerance errorTimeout).1 = s ∨
        (s.isSettled now error errTolerance errorTimeout).1.errorTimer.expireTime =
          now + errorTimeout.getD 0) := by
  rcases le_or_gt errTolerance |error| with hout | hin
  · rw [isSettled_of_le hout] at h
    cases h
  · refine ⟨hin, ?_⟩
    cases hrunning : s.errorTimer.isRunning with
    | false =>
      rw [isSettled_of_stopped hin hrunning]
      exact Or.inr rfl
    | true =>
      rw [isSettled_of_running hin hrunning]
      exact Or.inl ⟨rfl, rfl⟩

/-- The timer has run out by `clock`, if it runs. -/
def RunOut (s : SettledUtil) (clock : UInt32) : Prop :=
  s.errorTimer.isRunning = true → s.errorTimer.expireTime ≤ clock

theorem RunOut.mono {clock : UInt32} (h : s.RunOut clock) (hnow : clock ≤ now) : s.RunOut now :=
  fun hrunning => UInt32.le_trans (h hrunning) hnow

/-- **Calls without a timeout**: after each the timer runs exactly if the error is within tolerance,
and the error has settled exactly if it was so at the last call and is now. -/
theorem isSettled_zero {clock : UInt32} (h : s.RunOut clock) (hnow : clock ≤ now) :
    (s.isSettled now error errTolerance (some 0)).1.RunOut now ∧
      (s.isSettled now error errTolerance (some 0)).1.errorTimer.isRunning =
        decide (|error| < errTolerance) ∧
      ((s.isSettled now error errTolerance (some 0)).2 = true ↔
        |error| < errTolerance ∧ s.errorTimer.isRunning = true) := by
  rcases le_or_gt errTolerance |error| with hout | hin
  · rw [isSettled_of_le hout]
    simp [RunOut, Timeout.stop, hout]
  · cases hrunning : s.errorTimer.isRunning with
    | false =>
      rw [isSettled_of_stopped hin hrunning]
      simp [RunOut, Timeout.restart, hin]
    | true =>
      rw [isSettled_of_running hin hrunning]
      simp [h.mono hnow, UInt32.le_trans (h hrunning) hnow, hin, hrunning]

end SettledUtil

/-! ### Sequences of calls -/

/-- A call of `isSettled`, without the error. -/
structure SettleRequest where
  time : UInt32
  errTolerance : ℚ
  errorTimeout : Option UInt32
deriving DecidableEq, Repr

namespace SettleRequest

/-- The timeout of a call. -/
def timeout (r : SettleRequest) : UInt32 := r.errorTimeout.getD 0

/-- The call, made of `s` with an error. -/
def call (r : SettleRequest) (s : SettledUtil) (error : ℚ) : SettledUtil × Bool :=
  s.isSettled r.time error r.errTolerance r.errorTimeout

end SettleRequest

namespace SettledUtil

variable (requests : ℕ → SettleRequest) (errors : ℕ → ℚ)

/-- What the calls before call `n` leave behind. -/
def run : ℕ → SettledUtil
  | 0 => construct
  | n + 1 => ((requests n).call (run n) (errors n)).1

/-- The answer of call `n`. -/
def settled (n : ℕ) : Bool := ((requests n).call (run requests errors n) (errors n)).2

/-- The error has been within the tolerance of call `n` at every call since one that was made at
least its timeout before it. -/
def Dwelled (n : ℕ) : Prop :=
  ∃ m ≤ n, (requests m).time.toNat + (requests n).timeout.toNat ≤ (requests n).time.toNat ∧
    ∀ j, m ≤ j → j ≤ n → |errors j| < (requests n).errTolerance

/-- The timeout of call `s` has run out at call `n`. -/
def RunsOut (s n : ℕ) : Prop :=
  (requests s).time + (requests s).timeout ≤ (requests n).time

/-- Whenever the timeout of an earlier call has run out at call `n`, there is a call since then that
was made at least the timeout of call `n` before it, and from which on no call has a wider tolerance
than call `n`. -/
def Compatible : Prop :=
  ∀ s n, s < n → (∀ j, s ≤ j → j ≤ n → 0 < (requests j).errTolerance) → RunsOut requests s n →
    ∃ m, s ≤ m ∧ m ≤ n ∧
      (requests m).time.toNat + (requests n).timeout.toNat ≤ (requests n).time.toNat ∧
      ∀ j, m ≤ j → j ≤ n → (requests j).errTolerance ≤ (requests n).errTolerance

variable {requests errors}

/-- **What a running timer knows**: some call has started it, with its own timeout, and every call
since has found the error within its own tolerance. -/
theorem run_started {n : ℕ} (h : (run requests errors n).errorTimer.isRunning = true) :
    ∃ s < n, (run requests errors n).errorTimer.expireTime =
        (requests s).time + (requests s).timeout ∧
      ∀ j, s ≤ j → j < n → |errors j| < (requests j).errTolerance := by
  induction n with
  | zero => cases h
  | succ n ih =>
    obtain ⟨hin, ⟨hrunning, hsame⟩ | hstart⟩ := isSettled_running h
    · obtain ⟨s, hs, hexpire, hwithin⟩ := ih hrunning
      rw [run, SettleRequest.call, hsame]
      refine ⟨s, hs.trans (Nat.lt_succ_self n), hexpire, fun j hj hj' => ?_⟩
      rcases (Nat.lt_succ_iff.1 hj').lt_or_eq with hlt | rfl
      · exact hwithin j hj hlt
      · exact hin
    · refine ⟨n, Nat.lt_succ_self n, hstart, fun j hj hj' => ?_⟩
      rw [show j = n by omega]
      exact hin

/-- A call answers that the error has settled if the timer runs, has run out, and the error is
within tolerance. -/
theorem settled_iff {n : ℕ} :
    settled requests errors n = true ↔
      |errors n| < (requests n).errTolerance ∧
        (run requests errors n).errorTimer.isRunning = true ∧
        (run requests errors n).errorTimer.expireTime ≤ (requests n).time := by
  rw [settled, SettleRequest.call, isSettled_iff, Timeout.isExpired_iff]

/-- Calls that are compatible are answered right. -/
theorem dwelled_of_compatible (h : Compatible requests) {n : ℕ}
    (hsettled : settled requests errors n = true) : Dwelled requests errors n := by
  obtain ⟨hin, hrunning, hexpired⟩ := settled_iff.1 hsettled
  obtain ⟨s, hs, hexpire, hwithin⟩ := run_started hrunning
  have hall (j : ℕ) (hj : s ≤ j) (hj' : j ≤ n) : |errors j| < (requests j).errTolerance := by
    rcases hj'.lt_or_eq with hlt | rfl
    · exact hwithin j hj hlt
    · exact hin
  obtain ⟨m, hsm, hmn, htime, htol⟩ := h s n hs
    (fun j hj hj' => (abs_nonneg _).trans_lt (hall j hj hj')) (by rwa [RunsOut, ← hexpire])
  exact ⟨m, hmn, htime, fun j hj hj' => (hall j (hsm.trans hj) hj').trans_le (htol j hj hj')⟩

/-! ### Calls that are not compatible -/

/-- Errors that are out of tolerance before call `s`, and from then on as large as each call
tolerates, up to the tolerance of call `n`. -/
def probe (requests : ℕ → SettleRequest) (s n j : ℕ) : ℚ :=
  if j < s then max (requests j).errTolerance (requests n).errTolerance
  else if (requests n).errTolerance < (requests j).errTolerance then (requests n).errTolerance
  else 0

section Probe

variable {s n : ℕ}

theorem le_abs_probe_before {j : ℕ} (hj : j < s) :
    (requests j).errTolerance ≤ |probe requests s n j| ∧
      (requests n).errTolerance ≤ |probe requests s n j| := by
  rw [probe, if_pos hj]
  exact ⟨(le_max_left _ _).trans (le_abs_self _), (le_max_right _ _).trans (le_abs_self _)⟩

theorem le_abs_probe_of_lt {j : ℕ} (hj : s ≤ j)
    (h : (requests n).errTolerance < (requests j).errTolerance) :
    (requests n).errTolerance ≤ |probe requests s n j| := by
  rw [probe, if_neg (not_lt.2 hj), if_pos h]
  exact le_abs_self _

variable (hsn : s < n) (hpos : ∀ j, s ≤ j → j ≤ n → 0 < (requests j).errTolerance)
include hsn hpos

theorem abs_probe_lt {j : ℕ} (hj : s ≤ j) (hj' : j ≤ n) :
    |probe requests s n j| < (requests j).errTolerance := by
  rw [probe, if_neg (not_lt.2 hj)]
  split_ifs with h
  · rwa [abs_of_pos (hpos n hsn.le le_rfl)]
  · rw [abs_zero]
    exact hpos j hj hj'

omit hsn hpos in
/-- The timer is stopped up to call `s`. -/
theorem run_probe_stopped {j : ℕ} (hj : j ≤ s) :
    (run requests (probe requests s n) j).errorTimer.isRunning = false := by
  cases j with
  | zero => rfl
  | succ j =>
    rw [run, SettleRequest.call, isSettled_of_le (le_abs_probe_before hj).1]
    rfl

/-- Call `s` starts the timer, which then runs up to call `n`. -/
theorem run_probe_running {j : ℕ} (hj : s < j) (hj' : j ≤ n) :
    (run requests (probe requests s n) j).errorTimer.isRunning = true ∧
      (run requests (probe requests s n) j).errorTimer.expireTime =
        (requests s).time + (requests s).timeout := by
  induction j, hj using Nat.le_induction with
  | base =>
    rw [run, SettleRequest.call,
      isSettled_of_stopped (abs_probe_lt hsn hpos le_rfl hsn.le) (run_probe_stopped le_rfl)]
    exact ⟨rfl, rfl⟩
  | succ j hj ih =>
    have hrun := ih (by omega)
    rw [run, SettleRequest.call,
      isSettled_of_running (abs_probe_lt hsn hpos (by omega) (by omega)) hrun.1]
    exact hrun

/-- Call `n` answers that the error has settled. -/
theorem settled_probe (hout : RunsOut requests s n) :
    settled requests (probe requests s n) n = true := by
  obtain ⟨hrunning, hexpire⟩ := run_probe_running hsn hpos hsn le_rfl
  exact settled_iff.2 ⟨abs_probe_lt hsn hpos hsn.le le_rfl, hrunning, by rwa [hexpire]⟩

end Probe

/-- **When a caller can rely on the answers**: whatever the errors are, each call of a sequence that
answers that the error has settled is right about its own timeout and tolerance, exactly if the
calls are compatible. -/
theorem keeps_iff (requests : ℕ → SettleRequest) :
    (∀ errors n, settled requests errors n = true → Dwelled requests errors n) ↔
      Compatible requests := by
  constructor
  · intro h s n hsn hpos hout
    obtain ⟨m, hmn, htime, hwithin⟩ := h _ n (settled_probe hsn hpos hout)
    have hsm : s ≤ m := by
      by_contra! hms
      exact absurd (hwithin m le_rfl hmn) (not_lt.2 (le_abs_probe_before hms).2)
    refine ⟨m, hsm, hmn, htime, fun j hj hj' => ?_⟩
    by_contra! htol
    exact absurd (hwithin j hj hj') (not_lt.2 (le_abs_probe_of_lt (hsm.trans hj) htol))
  · exact fun h errors n => dwelled_of_compatible h

end SettledUtil

end Aimbots.Utils
