import Aimbots.Utils.SettledUtil
import Aimbots.Utils.SmoothPid

/-!
# `smooth_pid_wrap.hpp`: a controller that knows whether it has settled

A `SmoothPIDWrapper` together with its `SettledUtil`, which is asked about the error of the last
`runController`.
-/

namespace Aimbots.Utils

/-- `SmoothPID`. -/
structure SmoothPID extends SmoothPIDWrapper where
  settledUtil : SettledUtil
deriving DecidableEq, Repr

namespace SmoothPID

/-- The constructor; what a `SmoothPIDWrapper` is constructed with is an argument. -/
def construct (wrapper : SmoothPIDWrapper) : SmoothPID := ⟨wrapper, .construct⟩

/-- `runController`. -/
def runController (p : SmoothPID) (now : UInt32) (error derivativeInput : ℚ) : SmoothPID :=
  { p with toSmoothPIDWrapper := p.toSmoothPIDWrapper.runController now error derivativeInput }

/-- `isSettled`. -/
def isSettled (p : SmoothPID) (now : UInt32) (errTolerance : ℚ) (errorTimeout : Option UInt32) :
    SmoothPID × Bool :=
  let answer := p.settledUtil.isSettled now p.error errTolerance errorTimeout
  ({ p with settledUtil := answer.1 }, answer.2)

end SmoothPID

end Aimbots.Utils
