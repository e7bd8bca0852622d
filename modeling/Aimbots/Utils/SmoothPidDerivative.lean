import Aimbots.Library.Run
import Aimbots.Utils.SmoothPid
import Mathlib.Algebra.Order.Ring.Rat
import Mathlib.Tactic.Linarith

/-!
# The derivative of `smooth_pid_wrap.hpp`

`runControllerDerivateError` takes the difference quotient of the error twice: the controller inside
the wrapper keeps the error of the last call, and the wrapper itself keeps a time and an error of
its own.  It advances the time only, so that `getDerivative` is the quotient to the error that the
wrapper was constructed with, which nothing initialises.
-/

namespace Aimbots.Utils

open Run

/-- A call of `runControllerDerivateError`. -/
structure PidCall where
  now : UInt32
  error : ℚ
deriving DecidableEq

namespace SmoothPIDWrapper

/-- `getError()`. -/
def getError (w : SmoothPIDWrapper) : ℚ := w.error

/-- `getDerivative()`. -/
def getDerivative (w : SmoothPIDWrapper) : ℚ := w.errorDerivative

/-- A step of a run, which remembers the call. -/
def next (s : SmoothPIDWrapper × Option PidCall) (c : PidCall) :
    SmoothPIDWrapper × Option PidCall :=
  (s.1.runControllerDerivateError c.now c.error, some c)

/-- After a call that is not the first, the error is that of the call, and the derivative is the
difference quotient to the call before. -/
def DerivativeRight (s : SmoothPIDWrapper × Option PidCall) (c : PidCall) : Prop :=
  ∀ p, s.2 = some p →
    (next s c).1.getError = c.error ∧
      (next s c).1.getDerivative = (c.error - p.error) / ((c.now.toNat : ℚ) - p.now.toNat)

/-- The calls come at increasing times. -/
def Later (s : SmoothPIDWrapper × Option PidCall) (c : PidCall) : Prop :=
  ∀ p, s.2 = some p → p.now < c.now

/-- What the wrapper keeps: the error it was constructed with, and the time of the last call. -/
structure Follows (prevError : ℚ) (s : SmoothPIDWrapper × Option PidCall) : Prop where
  prevError_eq : s.1.prevError = prevError
  lastTime : ∀ p, s.2 = some p → s.1.lastTime = p.now.toNat

section

variable {prevError : ℚ} {s : SmoothPIDWrapper × Option PidCall} {c : PidCall}

theorem Follows.next (h : Follows prevError s) : Follows prevError (next s c) := by
  refine ⟨h.prevError_eq, fun p hp => ?_⟩
  obtain rfl : c = p := Option.some.inj hp
  rfl

/-- The time between two calls is not zero. -/
theorem Follows.dt_pos (h : Follows prevError s) (hlater : Later s c) {p : PidCall}
    (hp : s.2 = some p) : 1 ≤ (c.now.toNat : ℚ) - s.1.lastTime := by
  have hlt : p.now.toNat + 1 ≤ c.now.toNat := UInt32.lt_iff_toNat_lt.1 (hlater p hp)
  have hcast : (p.now.toNat : ℚ) + 1 ≤ c.now.toNat := by exact_mod_cast hlt
  rw [h.lastTime p hp]
  linarith

/-- The derivative is right exactly if the call before had the error that the wrapper was
constructed with. -/
theorem derivativeRight_iff (h : Follows prevError s) (hlater : Later s c) :
    DerivativeRight s c ↔ ∀ p, s.2 = some p → p.error = prevError := by
  refine forall_congr' fun p => imp_congr_right fun hp => ?_
  have hdt : (c.now.toNat : ℚ) - p.now.toNat ≠ 0 := by
    have := h.dt_pos hlater hp
    rw [h.lastTime p hp] at this
    linarith
  have hderivative : (SmoothPIDWrapper.next s c).1.getDerivative =
      (c.error - prevError) / ((c.now.toNat : ℚ) - p.now.toNat) := by
    rw [← h.prevError_eq, ← h.lastTime p hp]
    rfl
  have herror : (SmoothPIDWrapper.next s c).1.getError = c.error := rfl
  rw [and_iff_right herror, hderivative, div_left_inj' hdt, sub_right_inj, eq_comm]

theorem each_later {calls : List PidCall} (hs : ∀ p, s.2 = some p → ∀ c ∈ calls, p.now < c.now)
    (hcalls : calls.Pairwise fun c d => c.now < d.now) :
    Each SmoothPIDWrapper.next Later s calls :=
  each_of_pairwise (fun (s : SmoothPIDWrapper × Option PidCall) p => s.2 = some p)
    (fun _ _ _ h => Or.inl (Option.some.inj h).symm) hs hcalls

end

/-- The derivative after the first call, for two contents of what the constructor leaves. -/
theorem first_derivative_depends (config : SmoothPidConfig) (now : UInt32) (e : ℚ) :
    ((construct config (now.toNat - 1) 0 0 0).runControllerDerivateError now e).getDerivative ≠
      ((construct config (now.toNat - 1) 0 1 0).runControllerDerivateError now
        e).getDerivative := by
  simp only [getDerivative, runControllerDerivateError, construct, sub_sub_cancel,
    div_one, sub_zero]
  intro h
  linarith

/-- **When the derivative is right**, for calls at increasing times: at a call after the first,
exactly if the call before had the error that `prevError` held at the construction; and after the
first call it depends on what the members held, whatever the call. -/
theorem derivative_right_iff (config : SmoothPidConfig)
    (lastTime error prevError errorDerivative : ℚ) (calls : List PidCall)
    (hcalls : calls.Pairwise fun c d => c.now < d.now) :
    Each SmoothPIDWrapper.next
        (fun s c => DerivativeRight s c ↔ ∀ p, s.2 = some p → p.error = prevError)
        (construct config lastTime error prevError errorDerivative, none) calls ∧
    ∀ (now : UInt32) (e : ℚ),
      ∃ lastTime prevError lastTime' prevError' : ℚ,
        ((construct config lastTime 0 prevError 0).runControllerDerivateError now e).getDerivative ≠
          ((construct config lastTime' 0 prevError' 0).runControllerDerivateError
            now e).getDerivative := by
  refine ⟨?_, fun now e => ⟨_, _, _, _, first_derivative_depends config now e⟩⟩
  exact Each.of_inv (fun _ _ h hlater => ⟨derivativeRight_iff h hlater, h.next⟩)
    ⟨rfl, nofun⟩ (each_later nofun hcalls)

/-- Two calls, the first of which has the error that was there. -/
theorem derivative_right_iff_zero :
    Each SmoothPIDWrapper.next
      (fun s c => DerivativeRight s c ↔ ∀ p, s.2 = some p → p.error = 0)
      (construct {} 0 0 0 0, none) [⟨10, 0⟩, ⟨20, 5⟩] :=
  (derivative_right_iff {} 0 0 0 0 [⟨10, 0⟩, ⟨20, 5⟩] (by decide)).1

/-- The error goes from 5 to 7 in ten milliseconds; the derivative is 0.7 and not 0.2. -/
theorem derivative_wrong :
    ¬ Each SmoothPIDWrapper.next DerivativeRight (construct {} 0 0 0 0, none)
      [⟨10, 5⟩, ⟨20, 7⟩] := by
  rintro ⟨-, h, -⟩
  exact absurd (h ⟨10, 5⟩ rfl).2 (by decide +kernel)

end SmoothPIDWrapper

end Aimbots.Utils
