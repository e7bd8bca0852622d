import Mathlib.Tactic.Common
import Mathlib.Tactic.IntervalCases

/-!
# `jetson_protocol.hpp`: the message that the Jetson sends

`JetsonMessage` is a packed structure of 15 bytes in little-endian order.  A float is kept as its
32 bits: the communicator only copies and forwards it.  `ofBytes` is the `reinterpret_cast` of the
receive buffer, `toBytes` the way a message is sent; they are inverse to each other.
-/

namespace Aimbots.Jetson

/-- `JETSON_MESSAGE_MAGIC`, the character `'a'`. -/
def JETSON_MESSAGE_MAGIC : UInt8 := 0x61

/-- `JETSON_MESSAGE_SIZE`, the size of the packed structure. -/
abbrev JETSON_MESSAGE_SIZE : ℕ := 15

namespace CVState

def NOT_FOUND : UInt8 := 0

def FOUND : UInt8 := 1

def FIRE : UInt8 := 2

end CVState

/-- `JetsonMessage`.  The field `cvState` is a byte: a received one need not be an enumerator. -/
@[ext] structure JetsonMessage where
  magic : UInt8
  targetX : BitVec 32
  targetY : BitVec 32
  targetZ : BitVec 32
  delay : UInt8
  cvState : UInt8
deriving DecidableEq, Repr

/-- A four-byte value from its bytes, the least significant one first. -/
def wordOfBytes (b₀ b₁ b₂ b₃ : UInt8) : BitVec 32 :=
  BitVec.ofNat 32 (b₀.toNat + 2 ^ 8 * b₁.toNat + 2 ^ 16 * b₂.toNat + 2 ^ 24 * b₃.toNat)

/-- Byte `i` of a four-byte value. -/
def byteOfWord (w : BitVec 32) (i : ℕ) : UInt8 := UInt8.ofNat (w.toNat / 2 ^ (8 * i))

theorem byteOfWord_wordOfBytes (b₀ b₁ b₂ b₃ : UInt8) :
    byteOfWord (wordOfBytes b₀ b₁ b₂ b₃) 0 = b₀ ∧ byteOfWord (wordOfBytes b₀ b₁ b₂ b₃) 1 = b₁ ∧
      byteOfWord (wordOfBytes b₀ b₁ b₂ b₃) 2 = b₂ ∧
      byteOfWord (wordOfBytes b₀ b₁ b₂ b₃) 3 = b₃ := by
  have h₀ := b₀.toNat_lt
  have h₁ := b₁.toNat_lt
  have h₂ := b₂.toNat_lt
  have h₃ := b₃.toNat_lt
  refine ⟨?_, ?_, ?_, ?_⟩ <;>
    simp only [byteOfWord, wordOfBytes, BitVec.toNat_ofNat, ← UInt8.toNat_inj,
      UInt8.toNat_ofNat'] <;> omega

theorem wordOfBytes_byteOfWord (w : BitVec 32) :
    wordOfBytes (byteOfWord w 0) (byteOfWord w 1) (byteOfWord w 2) (byteOfWord w 3) = w := by
  have h := w.isLt
  refine BitVec.eq_of_toNat_eq ?_
  simp only [wordOfBytes, byteOfWord, BitVec.toNat_ofNat, UInt8.toNat_ofNat']
  omega

namespace JetsonMessage

/-- The bytes of a message, as they are sent. -/
def toBytes (m : JetsonMessage) : Vector UInt8 JETSON_MESSAGE_SIZE :=
  #v[m.magic,
    byteOfWord m.targetX 0, byteOfWord m.targetX 1, byteOfWord m.targetX 2, byteOfWord m.targetX 3,
    byteOfWord m.targetY 0, byteOfWord m.targetY 1, byteOfWord m.targetY 2, byteOfWord m.targetY 3,
    byteOfWord m.targetZ 0, byteOfWord m.targetZ 1, byteOfWord m.targetZ 2, byteOfWord m.targetZ 3,
    m.delay, m.cvState]

/-- `*reinterpret_cast<JetsonMessage*>(&rawSerialBuffer)`. -/
def ofBytes (b : Vector UInt8 JETSON_MESSAGE_SIZE) : JetsonMessage where
  magic := b.get 0
  targetX := wordOfBytes (b.get 1) (b.get 2) (b.get 3) (b.get 4)
  targetY := wordOfBytes (b.get 5) (b.get 6) (b.get 7) (b.get 8)
  targetZ := wordOfBytes (b.get 9) (b.get 10) (b.get 11) (b.get 12)
  delay := b.get 13
  cvState := b.get 14

theorem ofBytes_toBytes (m : JetsonMessage) : ofBytes m.toBytes = m := by
  refine JetsonMessage.ext rfl ?_ ?_ ?_ rfl rfl <;> exact wordOfBytes_byteOfWord _

theorem toBytes_ofBytes (b : Vector UInt8 JETSON_MESSAGE_SIZE) : (ofBytes b).toBytes = b := by
  simp only [toBytes, ofBytes, byteOfWord_wordOfBytes]
  refine Vector.ext fun i hi => ?_
  interval_cases i <;> rfl

theorem toBytes_injective : Function.Injective toBytes :=
  Function.LeftInverse.injective ofBytes_toBytes

end JetsonMessage

end Aimbots.Jetson
