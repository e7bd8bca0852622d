import Aimbots.Jetson.Protocol
import Aimbots.Library.Framing
import Aimbots.Tap.Timeout

/-!
# `jetson_communicator.cpp`: the receiver of the Jetson's messages

`updateSerial` is one call of the main loop: it asks the UART for one byte and advances the state
machine of the receiver.  The converter of the vision data is a parameter; the variables that are
only displayed and the notes of the buzzer are left out.

The receiver is a decoder of headed frames (`updateSerial_refines`, `run_refines`): the bytes
before `nextByteIndex` are the frame under assembly of `Framing.run`.
-/

namespace Aimbots.Jetson

/-- `JetsonCommunicatorSerialState`. -/
inductive SerialState
  | SearchingForMagic
  | AssemblingMessage
deriving DecidableEq, Repr

/-- `Vector3f`, as the bits of its floats. -/
structure Position where
  x : BitVec 32
  y : BitVec 32
  z : BitVec 32
deriving DecidableEq, Repr

/-- What one call of `updateSerial` finds: the two clocks, and the byte that the UART delivers, if
there is one. -/
structure SerialCall where
  timeMilliseconds : UInt32
  timeMicroseconds : UInt32
  read : Option UInt8
deriving DecidableEq, Repr

/-- The bytes that a sequence of calls reads. -/
def received (calls : List SerialCall) : List UInt8 := calls.filterMap SerialCall.read

/-- `JETSON_OFFLINE_TIMEOUT_MILLISECONDS`. -/
def JETSON_OFFLINE_TIMEOUT_MILLISECONDS : UInt32 := 2000

/-- The data members of `JetsonCommunicator`; `C` is the type of its converter. -/
structure JetsonCommunicator (C : Type*) where
  visionDataConverter : C
  rawSerialBuffer : Vector UInt8 JETSON_MESSAGE_SIZE
  currentSerialState : SerialState
  nextByteIndex : ℕ
  jetsonOfflineTimeout : Tap.Timeout
  lastMessage : JetsonMessage
  lastFoundTargetTime : UInt32
  visionTargetPosition : Position

namespace JetsonCommunicator

variable {C : Type*}

/-- The constructor; the members that it does not initialise are arguments. -/
def construct (visionDataConverter : C) (rawSerialBuffer : Vector UInt8 JETSON_MESSAGE_SIZE)
    (lastFoundTargetTime : UInt32) (visionTargetPosition : Position) : JetsonCommunicator C where
  visionDataConverter
  rawSerialBuffer
  currentSerialState := .SearchingForMagic
  nextByteIndex := 0
  jetsonOfflineTimeout := .stopped
  lastMessage := ⟨0, 0, 0, 0, 0, 0⟩
  lastFoundTargetTime
  visionTargetPosition

/-- `initialize`. -/
def init (s : JetsonCommunicator C) (now : UInt32) : JetsonCommunicator C :=
  { s with
    jetsonOfflineTimeout :=
      s.jetsonOfflineTimeout.restart now JETSON_OFFLINE_TIMEOUT_MILLISECONDS }

/-- `isJetsonOnline()`. -/
def isJetsonOnline (s : JetsonCommunicator C) (now : UInt32) : Bool :=
  !s.jetsonOfflineTimeout.isExpired now

-- `visionDataConverter.updateTargetInfo`, with the reading of the microsecond clock
variable (updateTargetInfo : UInt32 → C → Position → UInt8 → C)

/-- What is done with a full buffer. -/
def storeMessage (s : JetsonCommunicator C) (call : SerialCall) : JetsonCommunicator C :=
  let lastMessage := JetsonMessage.ofBytes s.rawSerialBuffer
  if CVState.FOUND ≤ lastMessage.cvState then
    let visionTargetPosition := ⟨lastMessage.targetX, lastMessage.targetY, lastMessage.targetZ⟩
    { s with
      lastMessage
      visionTargetPosition
      visionDataConverter := updateTargetInfo call.timeMicroseconds s.visionDataConverter
        visionTargetPosition lastMessage.delay
      lastFoundTargetTime := call.timeMicroseconds }
  else { s with lastMessage }

/-- `updateSerial`: the state it leaves, and the message it decoded.  `none` is an access behind
the end of the buffer. -/
def updateSerial (s : JetsonCommunicator C) (call : SerialCall) :
    Option (JetsonCommunicator C × Option JetsonMessage) :=
  if h : s.nextByteIndex < JETSON_MESSAGE_SIZE then
    match call.read with
    | none => some (s, none)
    | some byte =>
      let s := { s with
        rawSerialBuffer := s.rawSerialBuffer.set s.nextByteIndex byte
        jetsonOfflineTimeout := s.jetsonOfflineTimeout.restart call.timeMilliseconds
          JETSON_OFFLINE_TIMEOUT_MILLISECONDS }
      match s.currentSerialState with
      | .SearchingForMagic =>
        let nextByteIndex :=
          if byte.toNat = JETSON_MESSAGE_MAGIC.toNat >>> (8 * s.nextByteIndex) &&& 0xff then
            s.nextByteIndex + 1
          else 0
        -- the magic number is one byte long
        let currentSerialState :=
          if nextByteIndex = 1 then .AssemblingMessage else s.currentSerialState
        some ({ s with nextByteIndex, currentSerialState }, none)
      | .AssemblingMessage =>
        let nextByteIndex := s.nextByteIndex + 1
        if nextByteIndex = JETSON_MESSAGE_SIZE then
          let s := s.storeMessage updateTargetInfo call
          some ({ s with nextByteIndex := 0, currentSerialState := .SearchingForMagic },
            some s.lastMessage)
        else some ({ s with nextByteIndex }, none)
  else none

/-- A sequence of calls: the state it leaves, and the messages decoded. -/
def run (s : JetsonCommunicator C) :
    List SerialCall → Option (JetsonCommunicator C × List JetsonMessage)
  | [] => some (s, [])
  | call :: calls => do
    let (s, message) ← s.updateSerial updateTargetInfo call
    let (s, messages) ← run s calls
    return (s, message.toList ++ messages)

/-! ### The invariant -/

/-- What holds between two calls: the index fits the state, and a message under assembly starts
with the magic number. -/
structure Inv (s : JetsonCommunicator C) : Prop where
  searching : s.currentSerialState = .SearchingForMagic → s.nextByteIndex = 0
  assembling : s.currentSerialState = .AssemblingMessage →
    1 ≤ s.nextByteIndex ∧ s.nextByteIndex ≤ 14
  magic : 0 < s.nextByteIndex → s.rawSerialBuffer[0] = JETSON_MESSAGE_MAGIC

/-- The bytes of the message under assembly. -/
def pending (s : JetsonCommunicator C) : List UInt8 :=
  s.rawSerialBuffer.toList.take s.nextByteIndex

variable {updateTargetInfo} {s : JetsonCommunicator C} {call : SerialCall}

theorem inv_of_searching (hstate : s.currentSerialState = .SearchingForMagic)
    (hidx : s.nextByteIndex = 0) : s.Inv where
  searching _ := hidx
  assembling h := by rw [hstate] at h; cases h
  magic h := by omega

theorem inv_of_assembling (hstate : s.currentSerialState = .AssemblingMessage)
    (hpos : 1 ≤ s.nextByteIndex) (hle : s.nextByteIndex ≤ 14)
    (hmagic : s.rawSerialBuffer[0] = JETSON_MESSAGE_MAGIC) : s.Inv where
  searching h := by rw [hstate] at h; cases h
  assembling _ := ⟨hpos, hle⟩
  magic _ := hmagic

theorem Inv.index_le (h : s.Inv) : s.nextByteIndex ≤ 14 := by
  cases hs : s.currentSerialState with
  | SearchingForMagic => rw [h.searching hs]; omega
  | AssemblingMessage => exact (h.assembling hs).2

theorem length_pending (h : s.Inv) : s.pending.length = s.nextByteIndex := by
  have hle := h.index_le
  rw [pending, List.length_take, Vector.length_toList]
  show min s.nextByteIndex 15 = s.nextByteIndex
  omega

theorem isPending_pending (h : s.Inv) : Framing.IsPending JETSON_MESSAGE_MAGIC 14 s.pending := by
  rcases Nat.eq_zero_or_pos s.nextByteIndex with hidx | hidx
  · left
    rw [pending, hidx, List.take_zero]
  · right
    have hlen := length_pending h
    have hle := h.index_le
    cases hp : s.pending with
    | nil => simp [hp] at hlen; omega
    | cons b q =>
      rw [hp, List.length_cons] at hlen
      have hhead : s.pending.head? = some s.rawSerialBuffer[0] := by
        rw [pending, List.head?_take, if_neg (by omega)]
        simp [List.head?_eq_getElem?]
      rw [hp, List.head?_cons, h.magic hidx] at hhead
      exact ⟨q, by rw [Option.some.inj hhead], by omega⟩

theorem inv_construct (c : C) (buffer : Vector UInt8 JETSON_MESSAGE_SIZE) (time now : UInt32)
    (position : Position) : ((construct c buffer time position).init now).Inv :=
  inv_of_searching rfl rfl

/-- Writing the next byte prolongs the message under assembly. -/
theorem take_set {n : ℕ} (v : Vector UInt8 n) {i : ℕ} (b : UInt8) (hi : i < n) :
    (v.set i b).toList.take (i + 1) = v.toList.take i ++ [b] := by
  rw [Vector.toList_set, List.take_add_one, List.take_set_of_le le_rfl]
  simp [hi]

/-- A full buffer becomes the last message, whatever its state of vision. -/
theorem lastMessage_storeMessage (s : JetsonCommunicator C) (call : SerialCall) :
    (s.storeMessage updateTargetInfo call).lastMessage =
      JetsonMessage.ofBytes s.rawSerialBuffer := by
  simp only [storeMessage]
  split_ifs <;> rfl

/-- What one call can do to the data of the vision: nothing without a message; only the last
message changes with one that found nothing; with a target the time is that of the call. -/
theorem updateSerial_vision {s' : JetsonCommunicator C} {message : Option JetsonMessage}
    (h : s.updateSerial updateTargetInfo call = some (s', message)) :
    s'.lastMessage = message.getD s.lastMessage ∧
      ((∃ m ∈ message, CVState.FOUND ≤ m.cvState) →
        s'.lastFoundTargetTime = call.timeMicroseconds) ∧
      ((∀ m ∈ message, ¬ CVState.FOUND ≤ m.cvState) →
        s'.visionDataConverter = s.visionDataConverter ∧
          s'.lastFoundTargetTime = s.lastFoundTargetTime) := by
  simp only [updateSerial] at h
  split at h
  · cases hread : call.read with
    | none =>
      simp only [hread, Option.some.injEq, Prod.mk.injEq] at h
      obtain ⟨rfl, rfl⟩ := h
      simp
    | some byte =>
      cases hstate : s.currentSerialState with
      | SearchingForMagic =>
        simp only [hread, hstate, Option.some.injEq, Prod.mk.injEq] at h
        obtain ⟨rfl, rfl⟩ := h
        simp
      | AssemblingMessage =>
        simp only [hread, hstate] at h
        split at h
        · simp only [Option.some.injEq, Prod.mk.injEq] at h
          obtain ⟨rfl, rfl⟩ := h
          simp only [storeMessage]
          split_ifs with hfound <;> simp [hfound]
        · simp only [Option.some.injEq, Prod.mk.injEq] at h
          obtain ⟨rfl, rfl⟩ := h
          simp
  · cases h

/-- A decoded message with a target is passed on to the converter, at the time of the call. -/
theorem updateSerial_found {s' : JetsonCommunicator C} {m : JetsonMessage}
    (h : s.updateSerial updateTargetInfo call = some (s', some m))
    (hfound : CVState.FOUND ≤ m.cvState) :
    s'.visionDataConverter = updateTargetInfo call.timeMicroseconds s.visionDataConverter
      ⟨m.targetX, m.targetY, m.targetZ⟩ m.delay ∧
      s'.lastFoundTargetTime = call.timeMicroseconds := by
  simp only [updateSerial] at h
  split at h
  · cases hread : call.read with
    | none =>
      rw [hread] at h
      cases h
    | some byte =>
      cases hstate : s.currentSerialState with
      | SearchingForMagic =>
        simp only [hread, hstate] at h
        cases h
      | AssemblingMessage =>
        simp only [hread, hstate] at h
        split at h
        · simp only [Option.some.injEq, Prod.mk.injEq, lastMessage_storeMessage] at h
          obtain ⟨rfl, rfl⟩ := h
          simp only [storeMessage]
          rw [if_pos hfound]
          exact ⟨rfl, rfl⟩
        · cases h
  · cases h

/-- A call that reads a byte does with it what the decoder does. -/
def DecodesByte (updateTargetInfo : UInt32 → C → Position → UInt8 → C) (s : JetsonCommunicator C)
    (call : SerialCall) (byte : UInt8) : Prop :=
  ∃ s' message, s.updateSerial updateTargetInfo call = some (s', message) ∧ s'.Inv ∧
    s'.lastMessage = message.getD s.lastMessage ∧
    (s'.pending, message.map fun m => m.toBytes.toList) =
      Framing.next JETSON_MESSAGE_MAGIC 14 s.pending byte

/-- Between two messages a byte is taken if it is the magic number. -/
theorem decodesByte_searching (updateTargetInfo : UInt32 → C → Position → UInt8 → C) (h : s.Inv)
    (hstate : s.currentSerialState = .SearchingForMagic) {byte : UInt8}
    (hread : call.read = some byte) : DecodesByte updateTargetInfo s call byte := by
  have hidx : s.nextByteIndex < JETSON_MESSAGE_SIZE := Nat.lt_succ_of_le h.index_le
  have hzero := h.searching hstate
  have hpending : s.pending = [] := by rw [pending, hzero, List.take_zero]
  unfold DecodesByte updateSerial
  rw [dif_pos hidx]
  simp only [hread, hstate, hzero, Nat.mul_zero, Nat.shiftRight_zero, Nat.zero_add, hpending]
  by_cases hbyte : byte = JETSON_MESSAGE_MAGIC
  · subst hbyte
    have hmagic : JETSON_MESSAGE_MAGIC.toNat = JETSON_MESSAGE_MAGIC.toNat &&& 0xff := rfl
    simp only [if_pos hmagic, if_true, Framing.next_header]
    refine ⟨_, _, rfl, inv_of_assembling rfl le_rfl (show 1 ≤ 14 by omega) ?_, rfl, ?_⟩
    · exact Vector.getElem_set_self ..
    · simp only [pending, Option.map_none, take_set, List.take_zero, List.nil_append]
  · have hne : byte.toNat ≠ JETSON_MESSAGE_MAGIC.toNat &&& 0xff :=
      fun heq => hbyte (UInt8.toNat_inj.1 heq)
    simp only [if_neg hne, Framing.next_of_ne hbyte]
    exact ⟨_, _, rfl, inv_of_searching rfl rfl, rfl, rfl⟩

/-- In a message a byte is taken, and the last one completes it. -/
theorem decodesByte_assembling (updateTargetInfo : UInt32 → C → Position → UInt8 → C) (h : s.Inv)
    (hstate : s.currentSerialState = .AssemblingMessage) {byte : UInt8}
    (hread : call.read = some byte) : DecodesByte updateTargetInfo s call byte := by
  have hidx : s.nextByteIndex < JETSON_MESSAGE_SIZE := Nat.lt_succ_of_le h.index_le
  obtain ⟨hpos, hle⟩ := h.assembling hstate
  have hlen := length_pending h
  have hne : s.pending ≠ [] := List.ne_nil_of_length_pos (by omega)
  have htake : (s.rawSerialBuffer.set s.nextByteIndex byte).toList.take (s.nextByteIndex + 1) =
      s.pending ++ [byte] := take_set ..
  unfold DecodesByte updateSerial
  rw [dif_pos hidx]
  simp only [hread, hstate]
  by_cases hlast : s.nextByteIndex + 1 = 15
  · simp only [if_pos hlast, Framing.next_of_length_eq hne (show s.pending.length = 14 by omega)]
    refine ⟨_, _, rfl, inv_of_searching rfl rfl, rfl, ?_⟩
    rw [hlast, List.take_of_length_le (by simp)] at htake
    simp only [Option.map_some, lastMessage_storeMessage, JetsonMessage.toBytes_ofBytes, htake]
    rfl
  · simp only [if_neg hlast, Framing.next_of_length_ne hne (show s.pending.length ≠ 14 by omega)]
    refine ⟨_, _, rfl, inv_of_assembling rfl (Nat.le_add_left 1 _) ?_ ?_, rfl, ?_⟩
    · show s.nextByteIndex + 1 ≤ 14
      omega
    · show (s.rawSerialBuffer.set s.nextByteIndex byte)[0] = JETSON_MESSAGE_MAGIC
      rw [Vector.getElem_set_ne _ _ (by omega)]
      exact h.magic hpos
    · simp only [pending, Option.map_none]
      rw [htake, pending]

/-- **One call refines one step of the decoder.** -/
theorem updateSerial_refines (updateTargetInfo : UInt32 → C → Position → UInt8 → C) (h : s.Inv)
    (call : SerialCall) :
    ∃ s' message, s.updateSerial updateTargetInfo call = some (s', message) ∧ s'.Inv ∧
      s'.lastMessage = message.getD s.lastMessage ∧
      (s'.pending, message.map fun m => m.toBytes.toList) =
        match call.read with
        | none => (s.pending, none)
        | some byte => Framing.next JETSON_MESSAGE_MAGIC 14 s.pending byte := by
  cases hread : call.read with
  | none =>
    refine ⟨s, none, ?_, h, rfl, rfl⟩
    unfold updateSerial
    rw [dif_pos (Nat.lt_succ_of_le h.index_le)]
    simp only [hread]
  | some byte =>
    cases hstate : s.currentSerialState with
    | SearchingForMagic => exact decodesByte_searching updateTargetInfo h hstate hread
    | AssemblingMessage => exact decodesByte_assembling updateTargetInfo h hstate hread

/-- **A sequence of calls refines a run of the decoder on the bytes they read.** -/
theorem run_refines (updateTargetInfo : UInt32 → C → Position → UInt8 → C) (h : s.Inv)
    (calls : List SerialCall) :
    ∃ s' messages, s.run updateTargetInfo calls = some (s', messages) ∧ s'.Inv ∧
      s'.lastMessage = messages.getLast?.getD s.lastMessage ∧
      (s'.pending, messages.map fun m => m.toBytes.toList) =
        Framing.run JETSON_MESSAGE_MAGIC 14 s.pending (received calls) := by
  induction calls generalizing s with
  | nil => exact ⟨s, [], rfl, h, rfl, rfl⟩
  | cons call calls ih =>
    obtain ⟨s₁, message, hstep, h₁, hlast₁, hnext⟩ :=
      updateSerial_refines updateTargetInfo h call
    obtain ⟨s₂, messages, hrun, h₂, hlast₂, hrest⟩ := ih h₁
    refine ⟨s₂, message.toList ++ messages, by simp [run, hstep, hrun], h₂, ?_, ?_⟩
    · rw [hlast₂, hlast₁, List.getLast?_append]
      cases message <;> cases messages.getLast? <;> rfl
    · obtain ⟨hpending, hmessages⟩ := Prod.mk.inj hrest
      rw [List.map_append, hpending, hmessages]
      cases hread : call.read with
      | none =>
        rw [hread] at hnext
        obtain ⟨hp, hm⟩ := Prod.mk.inj hnext
        obtain rfl := Option.map_eq_none_iff.1 hm
        have hrec : received (call :: calls) = received calls := by simp [received, hread]
        rw [hrec, hp]
        rfl
      | some byte =>
        rw [hread] at hnext
        have hstep : _ = Framing.next JETSON_MESSAGE_MAGIC 14 s.pending byte := hnext
        have hrec : received (call :: calls) = byte :: received calls := by simp [received, hread]
        rw [hrec, Framing.run, ← hstep]
        cases message <;> rfl

end JetsonCommunicator

end Aimbots.Jetson
