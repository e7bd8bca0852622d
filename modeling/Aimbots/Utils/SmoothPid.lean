import Mathlib.Algebra.Order.Field.Rat
import Mathlib.Algebra.Order.Group.Abs
import Mathlib.Tactic.Common

/-!
# `smooth_pid.cpp` and `smooth_pid_wrap.hpp`: the controllers of the motors

`SmoothPid` with the two filters it runs its terms through, and `SmoothPIDWrapper`, which measures
the time between two calls.  The numbers are rationals: what a float would round is exact here.
-/

namespace Aimbots.Utils

/-- `limitVal`. -/
def limitVal (val min max : ℚ) : ℚ :=
  if min > max then val else if val < min then min else if val > max then max else val

/-- The data members of `ExtendedKalman`; the system parameters `A`, `B` and `H` are constant. -/
structure ExtendedKalman where
  xLast : ℚ
  pLast : ℚ
  Q : ℚ
  R : ℚ
deriving DecidableEq, Repr

namespace ExtendedKalman

/-- The constructor. -/
def construct (tQ tR : ℚ) : ExtendedKalman := ⟨0, 0, tQ, tR⟩

/-- `filterData`; the result is also what `getLastFiltered` returns afterwards. -/
def filterData (k : ExtendedKalman) (dat : ℚ) : ExtendedKalman :=
  let pMid := k.pLast + k.Q
  let kg := pMid / (pMid + k.R)
  { k with
    xLast := k.xLast + kg * (dat - k.xLast)
    pLast := (1 - kg) * pMid }

/-- `getLastFiltered()`. -/
def getLastFiltered (k : ExtendedKalman) : ℚ := k.xLast

end ExtendedKalman

/-- `SmoothPidConfig`. -/
structure SmoothPidConfig where
  kp : ℚ := 0
  ki : ℚ := 0
  kd : ℚ := 0
  maxICumulative : ℚ := 0
  maxOutput : ℚ := 0
  tQDerivativeKalman : ℚ := 1
  tRDerivativeKalman : ℚ := 0
  tQProportionalKalman : ℚ := 1
  tRProportionalKalman : ℚ := 0
  errDeadzone : ℚ := 0
  errorDerivativeFloor : ℚ := 0
deriving DecidableEq, Repr

/-- The data members of `SmoothPid`. -/
structure SmoothPid where
  config : SmoothPidConfig
  currErrorP : ℚ
  currErrorI : ℚ
  currErrorD : ℚ
  output : ℚ
  prevError : ℚ
  proportionalKalman : ExtendedKalman
  derivativeKalman : ExtendedKalman
deriving DecidableEq, Repr

namespace SmoothPid

/-- The constructor. -/
def construct (pidConfig : SmoothPidConfig) : SmoothPid where
  config := pidConfig
  currErrorP := 0
  currErrorI := 0
  currErrorD := 0
  output := 0
  prevError := 0
  proportionalKalman := .construct pidConfig.tQProportionalKalman pidConfig.tRProportionalKalman
  derivativeKalman := .construct pidConfig.tQDerivativeKalman pidConfig.tRDerivativeKalman

/-- `runController`. -/
def runController (p : SmoothPid) (error errorDerivative dt : ℚ) : SmoothPid :=
  let error := if |error| < p.config.errDeadzone then 0 else error
  let proportionalKalman := p.proportionalKalman.filterData error
  let currErrorP := p.config.kp * proportionalKalman.getLastFiltered
  let currErrorI := limitVal
    (p.currErrorI + p.config.ki * proportionalKalman.getLastFiltered * dt)
    (-p.config.maxICumulative) p.config.maxICumulative
  let derivativeKalman := p.derivativeKalman.filterData errorDerivative
  let currErrorD :=
    if |error| < p.config.errorDerivativeFloor then 0
    else -p.config.kd * derivativeKalman.getLastFiltered
  { p with
    proportionalKalman
    derivativeKalman
    currErrorP
    currErrorI
    currErrorD
    output := limitVal (currErrorP + currErrorI + currErrorD)
      (-p.config.maxOutput) p.config.maxOutput }

/-- `runControllerDerivateError`. -/
def runControllerDerivateError (p : SmoothPid) (error dt : ℚ) : SmoothPid :=
  -- `compareFloatClose(dt, 0.0f, 1E-5)`
  let dt := if |dt - 0| ≤ 1 / 100000 then 1 else dt
  let errorDerivative := (error - p.prevError) / dt
  { p with prevError := error }.runController error errorDerivative dt

/-- `getOutput()`. -/
def getOutput (p : SmoothPid) : ℚ := p.output

end SmoothPid

/-- The data members of `SmoothPIDWrapper`, without its `SettledUtil`. -/
structure SmoothPIDWrapper where
  lastTime : ℚ
  error : ℚ
  prevError : ℚ
  errorDerivative : ℚ
  pid : SmoothPid
deriving DecidableEq, Repr

namespace SmoothPIDWrapper

/-- The constructor; the members that it does not initialise are arguments. -/
def construct (config : SmoothPidConfig) (lastTime error prevError errorDerivative : ℚ) :
    SmoothPIDWrapper :=
  ⟨lastTime, error, prevError, errorDerivative, .construct config⟩

/-- `runController`; `now` is the millisecond clock. -/
def runController (w : SmoothPIDWrapper) (now : UInt32) (error derivativeInput : ℚ) :
    SmoothPIDWrapper :=
  let currTime : ℚ := now.toNat
  { w with
    error
    errorDerivative := derivativeInput
    lastTime := currTime
    pid := w.pid.runController error derivativeInput (currTime - w.lastTime) }

/-- `runControllerDerivateError`; `prevError` is never assigned. -/
def runControllerDerivateError (w : SmoothPIDWrapper) (now : UInt32) (error : ℚ) :
    SmoothPIDWrapper :=
  let currTime : ℚ := now.toNat
  let dt := currTime - w.lastTime
  { w with
    error
    errorDerivative := (error - w.prevError) / dt
    lastTime := currTime
    pid := w.pid.runControllerDerivateError error dt }

/-- `getOutput()`. -/
def getOutput (w : SmoothPIDWrapper) : ℚ := w.pid.getOutput

end SmoothPIDWrapper

/-! ### The bound on the output -/

/-- `limitVal` between bounds in order. -/
theorem limitVal_eq_clamp {val low high : ℚ} (h : low ≤ high) :
    limitVal val low high = max low (min val high) := by
  rw [limitVal, if_neg (not_lt.2 h)]
  split_ifs with hlow hhigh
  · rw [min_eq_left (hlow.le.trans h), max_eq_left hlow.le]
  · rw [min_eq_right (le_of_lt hhigh), max_eq_right h]
  · rw [min_eq_left (not_lt.1 hhigh), max_eq_right (not_lt.1 hlow)]

theorem limitVal_mem_Icc {val low high : ℚ} (h : low ≤ high) :
    limitVal val low high ∈ Set.Icc low high := by
  rw [limitVal_eq_clamp h]
  exact ⟨le_max_left _ _, max_le h (min_le_right _ _)⟩

theorem abs_limitVal_le {val bound : ℚ} (h : 0 ≤ bound) : |limitVal val (-bound) bound| ≤ bound :=
  abs_le.2 (limitVal_mem_Icc (neg_le_self h))

end Aimbots.Utils
