import Mathlib.Tactic.Common

/-!
# `tap/architecture/timeout.hpp`

`Timeout` over a clock that counts in a `uint32_t`, as `MilliTimeout` and `MicroTimeout` are.  The
reading of the clock is an argument of every operation that asks for it.
-/

namespace Aimbots.Tap

/-- The data members of `Timeout`. -/
@[ext] structure Timeout where
  isRunning : Bool
  isExecuted : Bool
  expireTime : UInt32
deriving DecidableEq, Repr

namespace Timeout

/-- The default constructor: a timer that is stopped. -/
def stopped : Timeout := ⟨false, false, 0⟩

/-- `restart(timeout)`: the timer runs out `timeout` units from `now`, modulo `2 ^ 32`. -/
def restart (_t : Timeout) (now timeout : UInt32) : Timeout := ⟨true, false, now + timeout⟩

/-- `stop()`. -/
def stop (t : Timeout) : Timeout := { t with isRunning := false, isExecuted := false }

/-- `isStopped()`. -/
def isStopped (t : Timeout) : Bool := !t.isRunning

/-- `isExpired()`. -/
def isExpired (t : Timeout) (now : UInt32) : Bool := t.isRunning && decide (t.expireTime ≤ now)

/-- `execute()`: true on the first call after the timer ran out. -/
def execute (t : Timeout) (now : UInt32) : Bool × Timeout :=
  if !t.isExecuted && t.isExpired now then (true, { t with isExecuted := true }) else (false, t)

theorem isExpired_iff {t : Timeout} {now : UInt32} :
    t.isExpired now = true ↔ t.isRunning = true ∧ t.expireTime ≤ now := by
  rw [isExpired, Bool.and_eq_true, decide_eq_true_iff]

theorem execute_eq_true_iff {t : Timeout} {now : UInt32} :
    (t.execute now).1 = true ↔ t.isExecuted = false ∧ t.isExpired now = true := by
  rw [← Bool.not_eq_true', ← Bool.and_eq_true, execute]
  split_ifs with hexecutes
  · exact iff_of_true rfl hexecutes
  · exact iff_of_false id hexecutes

theorem execute_of_true {t : Timeout} {now : UInt32} (h : (t.execute now).1 = true) :
    t.isExecuted = false ∧ t.isExpired now = true ∧
      (t.execute now).2 = { t with isExecuted := true } := by
  unfold execute at h ⊢
  split_ifs at h ⊢ with hexecutes
  obtain ⟨hexecuted, hexpired⟩ := Bool.and_eq_true_iff.1 hexecutes
  exact ⟨Bool.not_eq_true' _ ▸ hexecuted, hexpired, rfl⟩

theorem execute_of_false {t : Timeout} {now : UInt32} (h : (t.execute now).1 = false) :
    (t.execute now).2 = t := by
  unfold execute at h ⊢
  split_ifs at h ⊢
  rfl

/-- A timer that `execute` leaves as one that it has not answered true for has not run out. -/
theorem execute_of_not_executed {t : Timeout} {now : UInt32}
    (h : (t.execute now).2.isExecuted = false) :
    (t.execute now).2 = t ∧ t.isExpired now = false := by
  have hfires : (t.execute now).1 = false := by
    by_contra hfires
    rw [Bool.not_eq_false] at hfires
    rw [(execute_of_true hfires).2.2] at h
    exact Bool.false_ne_true h.symm
  have hsame := execute_of_false hfires
  refine ⟨hsame, ?_⟩
  by_contra hexpired
  rw [Bool.not_eq_false] at hexpired
  rw [execute_eq_true_iff.2 ⟨hsame ▸ h, hexpired⟩] at hfires
  exact Bool.false_ne_true hfires.symm

/-- The sum of two readings that is not smaller than one of them has not overflowed. -/
theorem toNat_add_of_le {now timeout : UInt32} (h : timeout ≤ now + timeout) :
    (now + timeout).toNat = now.toNat + timeout.toNat := by
  have hnow := now.toNat_lt
  have htimeout := timeout.toNat_lt
  rw [UInt32.le_iff_toNat_le, UInt32.toNat_add] at h
  rw [UInt32.toNat_add]
  omega

/-- A timer that has not run out was set less than its timeout ago, if the clock did not go back. -/
theorem sub_lt_of_not_expired (t : Timeout) {start now timeout : UInt32} (hle : start ≤ now)
    (h : (t.restart start timeout).isExpired now = false) : now - start < timeout := by
  rw [restart, isExpired, Bool.true_and] at h
  have hgt : now < start + timeout := UInt32.not_le.1 (of_decide_eq_false h)
  have hstart := start.toNat_lt
  have htimeout := timeout.toNat_lt
  have hnow := now.toNat_lt
  rw [UInt32.lt_iff_toNat_lt, UInt32.toNat_add] at hgt
  rw [UInt32.lt_iff_toNat_lt, UInt32.toNat_sub_of_le _ _ hle]
  rw [UInt32.le_iff_toNat_le] at hle
  omega

/-- A timer runs when it has just been set, if the time at which it runs out is not too large. -/
theorem not_expired_restart (t : Timeout) {now timeout : UInt32} (hpos : 0 < timeout)
    (hmax : now.toNat + timeout.toNat < UInt32.size) :
    (t.restart now timeout).isExpired now = false := by
  rw [restart, isExpired, Bool.true_and]
  refine decide_eq_false (UInt32.not_le.2 ?_)
  rw [UInt32.lt_iff_toNat_lt] at hpos ⊢
  rw [UInt32.toNat_add, Nat.mod_eq_of_lt hmax]
  exact Nat.lt_add_of_pos_right hpos

/-- From `clock` on, while the timer runs, it was set less than `timeout` ago, at a time with
`P`. -/
def SetWith (t : Timeout) (P : UInt32 → Prop) (timeout clock : UInt32) : Prop :=
  ∀ now, clock ≤ now → t.isExpired now = false →
    ∃ start, P start ∧ start ≤ now ∧ now - start < timeout

section SetWith

variable {t : Timeout} {P P' : UInt32 → Prop} {timeout clock clock' start : UInt32}

theorem setWith_restart (t : Timeout) (hP : P start) :
    (t.restart start timeout).SetWith P timeout start :=
  fun _ hnow hrunning => ⟨start, hP, hnow, t.sub_lt_of_not_expired hnow hrunning⟩

/-- The timeout 0 has run out at once. -/
theorem setWith_restart_zero (t : Timeout) (P : UInt32 → Prop) (timeout : UInt32) :
    (t.restart start 0).SetWith P timeout start :=
  fun _ hnow hrunning => absurd (t.sub_lt_of_not_expired hnow hrunning) UInt32.not_lt_zero

theorem SetWith.mono (h : t.SetWith P timeout clock) (hclock : clock ≤ clock')
    (hP : ∀ start, P start → P' start) : t.SetWith P' timeout clock' := by
  intro now hnow hrunning
  obtain ⟨start, hstart, hrecent⟩ := h now (UInt32.le_trans hclock hnow) hrunning
  exact ⟨start, hP start hstart, hrecent⟩

end SetWith

end Timeout

end Aimbots.Tap
