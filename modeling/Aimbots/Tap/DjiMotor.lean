import Mathlib.Data.Int.Notation

/-!
# `tap/motor/dji_motor.cpp`: the output of a motor

A motor keeps the output that it was told last, inverted if the motor is mounted the other way
round.
-/

namespace Aimbots.Tap

/-- The data members of `DjiMotor` that its output uses. -/
structure DjiMotor where
  motorInverted : Bool
  desiredOutput : Int16
deriving DecidableEq, Repr

namespace DjiMotor

/-- `setDesiredOutput`. -/
def setDesiredOutput (motor : DjiMotor) (desiredOutput : ℤ) : DjiMotor :=
  -- `limitVal<int32_t>` between `SHRT_MIN` and `SHRT_MAX`
  let desOutputNotInverted := Int16.ofIntClamp desiredOutput
  { motor with
    desiredOutput :=
      if motor.motorInverted then -desOutputNotInverted else desOutputNotInverted }

/-- `getOutputDesired`. -/
def getOutputDesired (motor : DjiMotor) : Int16 := motor.desiredOutput

@[simp] theorem motorInverted_setDesiredOutput (motor : DjiMotor) (desiredOutput : ℤ) :
    (motor.setDesiredOutput desiredOutput).motorInverted = motor.motorInverted := rfl

/-- A motor that is not inverted is told what it can do of an output. -/
theorem getOutputDesired_setDesiredOutput {motor : DjiMotor} (h : motor.motorInverted = false)
    {desiredOutput : ℤ} (hlow : Int16.minValue.toInt ≤ desiredOutput)
    (hhigh : desiredOutput ≤ Int16.maxValue.toInt) :
    (motor.setDesiredOutput desiredOutput).getOutputDesired.toInt = desiredOutput := by
  rw [getOutputDesired, setDesiredOutput, h, if_neg Bool.false_ne_true,
    Int16.toInt_ofIntClamp hlow hhigh]

end DjiMotor

end Aimbots.Tap
