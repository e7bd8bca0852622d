import Mathlib.Logic.Function.Basic
import Mathlib.Tactic.Common

/-!
# CAN messages and the receive handler

`modm::can::Message`, with the two bytes that a 16-bit field takes in its data, and the table of
listeners that `CanRxHandler` keeps for a bus.
-/

namespace Aimbots.Tap

/-- `modm::can::Message`: the constructor leaves the eight data bytes as the memory had them. -/
structure CanMessage where
  identifier : UInt32
  length : UInt8
  data : Vector UInt8 8
deriving DecidableEq, Repr

/-- The low byte of a 16-bit field. -/
def lowByte (x : Int16) : UInt8 := UInt8.ofNat x.toUInt16.toNat

/-- The high byte of a 16-bit field. -/
def highByte (x : Int16) : UInt8 := UInt8.ofNat (x.toUInt16.toNat / 256)

/-- A 16-bit field from its bytes. -/
def int16OfBytes (low high : UInt8) : Int16 := (UInt16.ofNat (low.toNat + 256 * high.toNat)).toInt16

theorem int16OfBytes_bytes (x : Int16) : int16OfBytes (lowByte x) (highByte x) = x := by
  have h := x.toUInt16.toNat_lt
  have hword : UInt16.ofNat ((lowByte x).toNat + 256 * (highByte x).toNat) = x.toUInt16 := by
    rw [← UInt16.toNat_inj, UInt16.toNat_ofNat', lowByte, highByte, UInt8.toNat_ofNat',
      UInt8.toNat_ofNat']
    omega
  rw [int16OfBytes, hword, Int16.toInt16_toUInt16]

/-- `CanRxHandler::MIN_CAN_ID`. -/
def MIN_CAN_ID : ℕ := 0x1E4

/-- `CanRxHandler::NUM_CAN_IDS`. -/
def NUM_CAN_IDS : ℕ := 64

/-- `lookupTableIndexForCanId`; its parameter is a `uint16_t`. -/
def lookupTableIndexForCanId (canId : UInt32) : ℕ :=
  if canId.toNat % 65536 < MIN_CAN_ID then NUM_CAN_IDS else canId.toNat % 65536 - MIN_CAN_ID

/-- The listeners of a bus, by index: `messageHandlerStore`. -/
structure CanRxHandler (H : Type*) where
  messageHandlerStore : ℕ → Option H

namespace CanRxHandler

variable {H : Type*}

/-- The table without listeners. -/
def empty : CanRxHandler H := ⟨fun _ => none⟩

/-- `attachReceiveHandler`; `none` is a failed assertion. -/
def attachReceiveHandler (t : CanRxHandler H) (canIdentifier : UInt32) (listener : H) :
    Option (CanRxHandler H) :=
  let id := lookupTableIndexForCanId canIdentifier
  if id < NUM_CAN_IDS ∧ (t.messageHandlerStore id).isNone then
    some ⟨Function.update t.messageHandlerStore id (some listener)⟩
  else none

/-- `processReceivedCanData`: the listener that is handed the message. -/
def processReceivedCanData (t : CanRxHandler H) (rxMessage : CanMessage) : Option H :=
  let id := lookupTableIndexForCanId rxMessage.identifier
  if NUM_CAN_IDS ≤ id then none else t.messageHandlerStore id

/-- A listener that has been attached gets the messages of its index; the others are not touched. -/
theorem processReceivedCanData_attach {t t' : CanRxHandler H} {canIdentifier : UInt32}
    {listener : H}
    (h : t.attachReceiveHandler canIdentifier listener = some t') (msg : CanMessage) :
    t'.processReceivedCanData msg =
      if lookupTableIndexForCanId msg.identifier = lookupTableIndexForCanId canIdentifier then
        some listener
      else t.processReceivedCanData msg := by
  simp only [attachReceiveHandler] at h
  split_ifs at h with hfree
  obtain rfl := Option.some.inj h
  simp only [processReceivedCanData]
  by_cases hid : lookupTableIndexForCanId msg.identifier = lookupTableIndexForCanId canIdentifier
  · rw [if_pos hid, hid, if_neg (Nat.not_le.2 hfree.1), Function.update_self]
  · rw [if_neg hid, Function.update_of_ne hid]

end CanRxHandler

end Aimbots.Tap
