import Aimbots.Library.Rounding
import Aimbots.Tap.Can

/-!
# The frames that the turret's board sends

The identifiers of `TurretCommunicator::CanID` and the packed structure `AngleMessageData`, which
both sides lay over the data bytes of a CAN message.
-/

namespace Aimbots.TurretComms

open Tap

/-- `TurretCommunicator::CanID`. -/
inductive CanID
  | TurretStatus
  | YawData
  | PitchData
  | RollData
  | ChassisToTurret
deriving DecidableEq, Repr

/-- The value of an enumerator of `CanID`. -/
def CanID.toUInt32 : CanID → UInt32
  | .TurretStatus => 0x1f8
  | .YawData => 0x1f9
  | .PitchData => 0x1fa
  | .RollData => 0x1fb
  | .ChassisToTurret => 0x1fc

/-- `ANGLE_PRECISION_FACTOR`. -/
def ANGLE_PRECISION_FACTOR : ℚ := 10000

/-- `LINEAR_PRECISION_FACTOR`. -/
def LINEAR_PRECISION_FACTOR : ℚ := 100

/-- `AngleMessageData`. -/
@[ext] structure AngleMessageData where
  target : Int16
  angularVelocity : Int16
  linearAcceleration : Int16
  seq : UInt8
deriving DecidableEq, Repr

namespace AngleMessageData

/-- The structure laid over the data of a message, read. -/
def ofData (data : Vector UInt8 8) : AngleMessageData where
  target := int16OfBytes (data.get 0) (data.get 1)
  angularVelocity := int16OfBytes (data.get 2) (data.get 3)
  linearAcceleration := int16OfBytes (data.get 4) (data.get 5)
  seq := data.get 6

/-- The structure laid over the data of a message, written: the eighth byte stays. -/
def toData (d : AngleMessageData) (data : Vector UInt8 8) : Vector UInt8 8 :=
  #v[lowByte d.target, highByte d.target, lowByte d.angularVelocity, highByte d.angularVelocity,
    lowByte d.linearAcceleration, highByte d.linearAcceleration, d.seq, data.get 7]

theorem ofData_toData (d : AngleMessageData) (data : Vector UInt8 8) : ofData (d.toData data) = d :=
  AngleMessageData.ext (int16OfBytes_bytes _) (int16OfBytes_bytes _) (int16OfBytes_bytes _) rfl

end AngleMessageData

end Aimbots.TurretComms
