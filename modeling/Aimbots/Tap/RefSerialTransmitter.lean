import Aimbots.Tap.RefSerial

/-!
# Messages from robot to robot

`sendRobotToRobotMsg` of `ref_serial_transmitter.cpp` writes a frame of type
`REF_MESSAGE_TYPE_CUSTOM_DATA` whose data begin with an `InteractiveHeader`; on the other side
`DJISerial::updateSerial` reads it and `RefSerial::messageReceiveCallback` hands it to the handler
that has been attached for its `dataCmdId`.  `handled_run` is about both ends and all between them.
-/

namespace Aimbots.Tap

open DJISerial (SerialMessage SERIAL_HEAD_BYTE SERIAL_RX_BUFF_SIZE contents stream receive)

namespace RefSerialTransmitter

/-- `configInteractiveHeader`. -/
def configInteractiveHeader (cmdId senderId receiverId : UInt16) : List UInt8 :=
  littleEndian cmdId ++ littleEndian senderId ++ littleEndian receiverId

/-- What is to be sent: `data` are the first `msgLen` bytes of `dataAndCRC16`. -/
structure RobotToRobotMessage where
  msgId : UInt16
  receiverId : UInt16
  data : List UInt8
deriving DecidableEq, Repr

/-- The errors that a send raises, and the bytes that it writes. -/
structure Sent where
  errors : List String
  written : List UInt8
deriving DecidableEq, Repr

/-- What is written once the message has been checked. -/
def frame (robotId : UInt16) (m : RobotToRobotMessage) : List UInt8 :=
  let message := DJISerial.configFrameHeader (UInt16.ofNat (6 + m.data.length)) 0 ++
    littleEndian REF_MESSAGE_TYPE_CUSTOM_DATA ++
    configInteractiveHeader m.msgId robotId m.receiverId ++ m.data
  message ++ littleEndian (calculateCRC16 message CRC16_INIT)

/-- `sendRobotToRobotMsg`, from its first call to its last. -/
def sendRobotToRobotMsg (robotId : UInt16) (m : RobotToRobotMessage) : Sent :=
  let errors := if m.data.length = 1 then ["message length cannot be 1 byte"] else []
  if m.msgId < 0x0200 ∨ 0x02ff ≤ m.msgId then
    ⟨errors ++ ["invalid msgId not between [0x200, 0x2ff)"], []⟩
  else if 113 < m.data.length then ⟨errors ++ ["message length > 113-char maximum"], []⟩
  else if robotId = 0 then ⟨errors, []⟩
  else ⟨errors, frame robotId m⟩

/-- The message is sent. -/
def Accepted (robotId : UInt16) (m : RobotToRobotMessage) : Prop :=
  0x0200 ≤ m.msgId ∧ m.msgId < 0x02ff ∧ m.data.length ≤ 113 ∧ robotId ≠ 0

instance (robotId : UInt16) (m : RobotToRobotMessage) : Decidable (Accepted robotId m) :=
  inferInstanceAs (Decidable (_ ∧ _))

/-- What a frame from robot to robot carries. -/
def RobotToRobotMessage.serial (robotId : UInt16) (m : RobotToRobotMessage) : SerialMessage where
  seq := 0
  messageType := REF_MESSAGE_TYPE_CUSTOM_DATA
  data := configInteractiveHeader m.msgId robotId m.receiverId ++ m.data

variable {robotId : UInt16} {m : RobotToRobotMessage}

theorem length_data_serial (robotId : UInt16) (m : RobotToRobotMessage) :
    (m.serial robotId).data.length = 6 + m.data.length := by
  simp only [RobotToRobotMessage.serial, configInteractiveHeader, littleEndian, List.length_append,
    List.length_cons, List.length_nil]

/-- **A message that is sent** is a frame with its data behind an `InteractiveHeader`; of one that
is not, nothing is written. -/
theorem written_sendRobotToRobotMsg : (sendRobotToRobotMsg robotId m).written =
    if Accepted robotId m then (m.serial robotId).bytes else [] := by
  have hbytes : frame robotId m = (m.serial robotId).bytes := by
    have hlen := length_data_serial robotId m
    simp only [frame, SerialMessage.bytes, hlen, List.append_assoc]
    rfl
  by_cases hid : m.msgId < 0x0200 ∨ 0x02ff ≤ m.msgId
  · have hno : ¬ Accepted robotId m := fun h =>
      hid.elim (UInt16.not_lt.2 h.1) (UInt16.not_le.2 h.2.1)
    rw [sendRobotToRobotMsg, if_pos hid, if_neg hno]
  · rw [not_or, UInt16.not_lt, UInt16.not_le] at hid
    rw [sendRobotToRobotMsg, if_neg (not_or.2 ⟨UInt16.not_lt.2 hid.1, UInt16.not_le.2 hid.2⟩)]
    by_cases hlen : 113 < m.data.length
    · have hno : ¬ Accepted robotId m := fun h => absurd h.2.2.1 (by omega)
      rw [if_pos hlen, if_neg hno]
    · by_cases hrobot : robotId = 0
      · have hno : ¬ Accepted robotId m := fun h => h.2.2.2 hrobot
        rw [if_neg hlen, if_pos hrobot, if_neg hno]
      · have hyes : Accepted robotId m := ⟨hid.1, hid.2, by omega, hrobot⟩
        rw [if_neg hlen, if_neg hrobot, if_pos hyes]
        exact hbytes

end RefSerialTransmitter

namespace RefSerial

open RefSerialTransmitter (RobotToRobotMessage sendRobotToRobotMsg Accepted)

variable {H : Type*} {s : RefSerial H} {now : UInt32} {message : ReceivedSerialMessage}

/-! ### Handlers -/

/-- Handlers are attached one after the other; an error leaves those that are. -/
def attachAll (s : RefSerial H) (attached : List (UInt16 × H)) : RefSerial H :=
  attached.foldl (fun s a => (s.attachRobotToRobotMessageHandler a.1 a.2).getD s) s

/-- The first handler that has been attached for an identifier that handlers can be attached for. -/
def firstHandler (attached : List (UInt16 × H)) (msgId : UInt16) : Option H :=
  if 0x0200 ≤ msgId ∧ msgId ≤ 0x02ff then (attached.find? (·.1 = msgId)).map Prod.snd else none

theorem find?_attach (s : RefSerial H) (msgId : UInt16) (handler : H) (id : UInt16) :
    ((s.attachRobotToRobotMessageHandler msgId handler).getD s).msgIdToRobotToRobotHandlerMap.find?
      id =
      (s.msgIdToRobotToRobotHandlerMap.find? id).or
        (if msgId = id ∧ 0x0200 ≤ id ∧ id ≤ 0x02ff then some handler else none) := by
  rw [attachRobotToRobotMessageHandler]
  split_ifs with herror hid hid
  · obtain ⟨rfl, hlow, hhigh⟩ := hid
    rcases herror with hsome | hlt | hlt
    · obtain ⟨h, hh⟩ := Option.isSome_iff_exists.1 hsome
      simp [hh]
    · exact absurd hlow (UInt16.not_le.2 hlt)
    · exact absurd hhigh (UInt16.not_le.2 hlt)
  · simp
  · obtain ⟨rfl, -⟩ := hid
    rw [not_or] at herror
    have hnone := Option.not_isSome_iff_eq_none.1 herror.1
    simp [hnone]
  · have hne : id ≠ msgId := by
      rintro rfl
      rw [not_or, not_or, UInt16.not_lt, UInt16.not_lt] at herror
      exact hid ⟨rfl, herror.2⟩
    simp [UnorderedMap.find?_set_of_ne _ _ hne]

theorem find?_attachAll (s : RefSerial H) (attached : List (UInt16 × H)) (id : UInt16) :
    (s.attachAll attached).msgIdToRobotToRobotHandlerMap.find? id =
      (s.msgIdToRobotToRobotHandlerMap.find? id).or (firstHandler attached id) := by
  induction attached generalizing s with
  | nil => simp [attachAll, firstHandler]
  | cons a attached ih =>
    have hstep : s.attachAll (a :: attached) =
        ((s.attachRobotToRobotMessageHandler a.1 a.2).getD s).attachAll attached := rfl
    rw [hstep, ih, find?_attach, Option.or_assoc]
    congr 1
    by_cases ha : a.1 = id
    · by_cases hid : 0x0200 ≤ id ∧ id ≤ 0x02ff
      · simp [firstHandler, ha, hid]
      · simp [firstHandler, ha, hid]
    · simp [firstHandler, ha]

/-- The handler that is called for what a message carries. -/
def dispatch (handlers : UnorderedMap UInt16 H) (m : SerialMessage) : Option H :=
  if m.messageType = REF_MESSAGE_TYPE_CUSTOM_DATA ∧ 6 ≤ m.data.length then
    handlers.find? (uint16OfBytes (m.data.getD 0 0) (m.data.getD 1 0))
  else none

/-- No message changes the handlers. -/
theorem handlers_expireDamage (fuel : ℕ) :
    (expireDamage now fuel s).msgIdToRobotToRobotHandlerMap = s.msgIdToRobotToRobotHandlerMap := by
  induction fuel generalizing s with
  | zero => rfl
  | succ fuel ih =>
    rw [expireDamage]
    split_ifs
    · exact ih
    · rfl

theorem handlers_received (now : UInt32) :
    (s.received now).msgIdToRobotToRobotHandlerMap = s.msgIdToRobotToRobotHandlerMap :=
  handlers_expireDamage _

theorem handlers_decodeToRobotStatus :
    (s.decodeToRobotStatus now message).msgIdToRobotToRobotHandlerMap =
      s.msgIdToRobotToRobotHandlerMap := by
  simp only [decodeToRobotStatus, processReceivedDamage]
  split_ifs <;> rfl

theorem handlers_messageReceiveCallback :
    (s.messageReceiveCallback now message).1.msgIdToRobotToRobotHandlerMap =
      s.msgIdToRobotToRobotHandlerMap := by
  rw [← handlers_received (s := s) now]
  simp only [messageReceiveCallback, decodeToGameStatus, decodeToPowerAndHeat, decodeToDamageStatus]
  split_ifs
  all_goals first | rfl | exact handlers_decodeToRobotStatus

/-- The handler that the callback calls for a message. -/
def handlerOf (handlers : UnorderedMap UInt16 H) (message : ReceivedSerialMessage) : Option H :=
  if messageType message = REF_MESSAGE_TYPE_CUSTOM_DATA then
    if DJISerial.dataLength message < 6 then none else handlers.find? (dataWord message 0)
  else none

theorem snd_messageReceiveCallback : (s.messageReceiveCallback now message).2 =
    handlerOf s.msgIdToRobotToRobotHandlerMap message := by
  rw [handlerOf, ← handlers_received now]
  by_cases htype : messageType message = REF_MESSAGE_TYPE_CUSTOM_DATA
  · simp only [messageReceiveCallback, htype]
    rfl
  · simp only [messageReceiveCallback, if_neg htype]
    split_ifs <;> rfl

/-- It is the one for what the message carries. -/
theorem handlerOf_eq_dispatch {handlers : UnorderedMap UInt16 H} (hlength : message.length = 265)
    (hsize : DJISerial.dataLength message < SERIAL_RX_BUFF_SIZE) :
    handlerOf handlers message = dispatch handlers (contents message) := by
  have hsize' : DJISerial.dataLength message < 256 := hsize
  have hcount : (contents message).data.length = DJISerial.dataLength message := by
    show ((message.drop 7).take (DJISerial.dataLength message)).length = _
    rw [List.length_take, List.length_drop]
    omega
  have htype : (contents message).messageType = messageType message := rfl
  rw [handlerOf, dispatch, hcount, htype]
  by_cases hshort : DJISerial.dataLength message < 6
  · rw [if_pos hshort, ite_self, if_neg fun h => absurd h.2 (Nat.not_le.2 hshort)]
  · have hbyte : ∀ i < 2, (contents message).data.getD i 0 = message.getD (7 + i) 0 :=
      fun i hi => by
      show ((message.drop 7).take (DJISerial.dataLength message)).getD i 0 = _
      rw [DJISerial.getD_take (by omega), List.getD_eq_getElem?_getD, List.getElem?_drop,
        ← List.getD_eq_getElem?_getD]
    have hword : dataWord message 0 =
        uint16OfBytes ((contents message).data.getD 0 0) ((contents message).data.getD 1 0) := by
      rw [hbyte 0 (by decide), hbyte 1 (by decide)]
      rfl
    rw [if_neg hshort, ← hword]
    by_cases hcustom : messageType message = REF_MESSAGE_TYPE_CUSTOM_DATA
    · rw [if_pos hcustom, if_pos ⟨hcustom, Nat.not_lt.1 hshort⟩]
    · rw [if_neg hcustom, if_neg fun h => hcustom h.1]

/-- A frame from robot to robot is for the handler of its identifier. -/
theorem dispatch_serial (handlers : UnorderedMap UInt16 H) (robotId : UInt16)
    (m : RobotToRobotMessage) : dispatch handlers (m.serial robotId) = handlers.find? m.msgId := by
  have hlen := RefSerialTransmitter.length_data_serial robotId m
  have hid : uint16OfBytes ((m.serial robotId).data.getD 0 0) ((m.serial robotId).data.getD 1 0) =
      m.msgId := uint16OfBytes_littleEndian m.msgId
  rw [dispatch, if_pos ⟨rfl, by omega⟩, hid]

end RefSerial

/-! ### Both ends -/

/-- A `RefSerial` with the `DJISerial` that it is. -/
structure RefereeLine (H : Type*) where
  serial : DJISerial
  ref : RefSerial H

namespace RefereeLine

open RefSerialTransmitter (RobotToRobotMessage sendRobotToRobotMsg Accepted)

variable {H : Type*}

/-- `updateSerial` with its callback, and the handlers that are called, with their messages. -/
def updateSerial (r : RefereeLine H) (now : UInt32) (fifo : List UInt8) :
    RefereeLine H × List UInt8 × List (H × ReceivedSerialMessage) :=
  match r.serial.updateSerial fifo with
  | (serial, fifo, .messageReceiveCallback message) =>
    let callback := r.ref.messageReceiveCallback now message
    (⟨serial, callback.1⟩, fifo, (callback.2.map fun h => (h, message)).toList)
  | (serial, fifo, _) => (⟨serial, r.ref⟩, fifo, [])

/-- Calls of `updateSerial` at some times; before each of them some bytes arrive. -/
def run (r : RefereeLine H) (fifo : List UInt8) :
    List (UInt32 × List UInt8) → List (H × ReceivedSerialMessage)
  | [] => []
  | (now, arrived) :: calls =>
    let t := r.updateSerial now (fifo ++ arrived)
    t.2.2 ++ run t.1 t.2.1 calls

/-- The handlers are called for the messages that the `DJISerial` delivers. -/
theorem updateSerial_spec (r : RefereeLine H) (now : UInt32) (fifo : List UInt8) :
    (r.updateSerial now fifo).1.serial = (r.serial.updateSerial fifo).1 ∧
      (r.updateSerial now fifo).1.ref.msgIdToRobotToRobotHandlerMap =
        r.ref.msgIdToRobotToRobotHandlerMap ∧
      (r.updateSerial now fifo).2.1 = (r.serial.updateSerial fifo).2.1 ∧
      (r.updateSerial now fifo).2.2 =
        (r.serial.updateSerial fifo).2.2.messages.filterMap fun message =>
          (RefSerial.handlerOf r.ref.msgIdToRobotToRobotHandlerMap message).map
            fun h => (h, message) := by
  rw [updateSerial]
  obtain ⟨serial, fifo', outcome⟩ := r.serial.updateSerial fifo
  cases outcome with
  | none => exact ⟨rfl, rfl, rfl, rfl⟩
  | RAISE_ERROR => exact ⟨rfl, rfl, rfl, rfl⟩
  | messageReceiveCallback message =>
    refine ⟨rfl, RefSerial.handlers_messageReceiveCallback, rfl, ?_⟩
    show ((r.ref.messageReceiveCallback now message).2.map fun h => (h, message)).toList = _
    rw [RefSerial.snd_messageReceiveCallback]
    cases hhandler : RefSerial.handlerOf r.ref.msgIdToRobotToRobotHandlerMap message <;>
      simp [Outcome.messages, hhandler]

theorem run_eq (r : RefereeLine H) (fifo : List UInt8) (calls : List (UInt32 × List UInt8)) :
    r.run fifo calls = (receive r.serial fifo (calls.map Prod.snd)).2.2.filterMap fun message =>
      (RefSerial.handlerOf r.ref.msgIdToRobotToRobotHandlerMap message).map fun h =>
        (h, message) := by
  induction calls generalizing r fifo with
  | nil => rfl
  | cons call calls ih =>
    obtain ⟨hserial, hhandlers, hfifo, hcalled⟩ := updateSerial_spec r call.1 (fifo ++ call.2)
    rw [run]
    simp only [List.map_cons, receive, List.filterMap_append, ih, hserial, hhandlers,
      hfifo, hcalled]

/-! ### From one robot to another -/

/-- What a robot writes, each message behind some bytes that are not part of one. -/
def wire (robotId : UInt16) (sends : List (List UInt8 × RobotToRobotMessage)) : List UInt8 :=
  sends.flatMap fun send => send.1 ++ (sendRobotToRobotMsg robotId send.2).written

/-- The messages that are sent. -/
def accepted (robotId : UInt16) (sends : List (List UInt8 × RobotToRobotMessage)) :
    List RobotToRobotMessage :=
  (sends.map Prod.snd).filter fun m => decide (Accepted robotId m)

theorem length_data_lt {robotId : UInt16} {m : RobotToRobotMessage} (h : Accepted robotId m) :
    (m.serial robotId).data.length < SERIAL_RX_BUFF_SIZE := by
  have hlen := RefSerialTransmitter.length_data_serial robotId m
  have hmax := h.2.2.1
  show (m.serial robotId).data.length < 256
  omega

theorem parses_wire (robotId : UInt16) {sends : List (List UInt8 × RobotToRobotMessage)}
    (hgap : ∀ send ∈ sends, SERIAL_HEAD_BYTE ∉ send.1) :
    PrefixDecoder.Parses (DJISerial.verdict true) (wire robotId sends)
      ((accepted robotId sends).map fun m => (m.serial robotId).bytes) [] := by
  induction sends with
  | nil => exact .rest PrefixDecoder.isOpen_nil
  | cons send sends ih =>
    obtain ⟨hfree, hrest⟩ := List.forall_mem_cons.1 hgap
    have hskip := DJISerial.parses_of_notMem (c := true) hfree
    have htail := ih hrest
    have hwire : wire robotId (send :: sends) =
        send.1 ++ ((sendRobotToRobotMsg robotId send.2).written ++ wire robotId sends) := by
      rw [wire, List.flatMap_cons, List.append_assoc]
      rfl
    rw [hwire, RefSerialTransmitter.written_sendRobotToRobotMsg]
    by_cases haccepted : Accepted robotId send.2
    · have hlist : accepted robotId (send :: sends) = send.2 :: accepted robotId sends :=
        List.filter_cons_of_pos (decide_eq_true haccepted)
      rw [if_pos haccepted, hlist]
      exact hskip.append (.accept (DJISerial.isPiece_accept_iff_isFrame.2
        (DJISerial.isFrame_bytes (length_data_lt haccepted))) htail)
    · have hlist : accepted robotId (send :: sends) = accepted robotId sends :=
        List.filter_cons_of_neg (by simpa using haccepted)
      rw [if_neg haccepted, hlist, List.nil_append]
      exact hskip.append htail

/-- **From one robot to another**: whatever a robot tries to send, and in whatever pieces and at
whatever times the bytes come, each message that passes the tests of the sender is handed, in order
and with its data as they were, to the first handler that the other robot has attached for its
identifier, if there is one; and no handler is called besides. -/
theorem handled_run {memory : ReceivedSerialMessage} (hm : memory.length = 265)
    (buffer : Fin DPS_TRACKER_DEQUE_SIZE → DamageEvent) (attached : List (UInt16 × H))
    (robotId : UInt16) {sends : List (List UInt8 × RobotToRobotMessage)}
    (hgap : ∀ send ∈ sends, SERIAL_HEAD_BYTE ∉ send.1) {calls : List (UInt32 × List UInt8)}
    {idle : List UInt32} (hcalls : (calls.map Prod.snd).flatten = wire robotId sends)
    (hidle : (wire robotId sends).length ≤ idle.length) :
    ((run ⟨DJISerial.init true memory, (RefSerial.construct buffer).attachAll attached⟩ []
        (calls ++ idle.map fun now => (now, []))).map fun call => (call.1, contents call.2)) =
      (accepted robotId sends).filterMap fun m =>
        (RefSerial.firstHandler attached m.msgId).map fun h => (h, m.serial robotId) := by
  have hhandlers : ∀ id, ((RefSerial.construct buffer).attachAll
      attached).msgIdToRobotToRobotHandlerMap.find? id = RefSerial.firstHandler attached id :=
    fun id => by rw [RefSerial.find?_attachAll]; rfl
  have hnow : (calls ++ idle.map fun now => ((now, []) : UInt32 × List UInt8)).map Prod.snd =
      calls.map Prod.snd ++ List.replicate idle.length [] := by
    rw [List.map_append, List.map_map]
    exact congrArg _ List.map_const'
  have hsize : ∀ m ∈ (accepted robotId sends).map fun m => m.serial robotId,
      m.data.length < SERIAL_RX_BUFF_SIZE := fun m hmem => by
    obtain ⟨m', hm', rfl⟩ := List.mem_map.1 hmem
    exact length_data_lt (of_decide_eq_true (List.mem_filter.1 hm').2)
  have hparses : PrefixDecoder.Parses (DJISerial.verdict true) (calls.map Prod.snd).flatten
      (((accepted robotId sends).map fun m => m.serial robotId).map SerialMessage.bytes) [] := by
    rw [hcalls, List.map_map]
    exact parses_wire robotId hgap
  obtain ⟨hcontents, hmessages⟩ := DJISerial.map_contents_receive hm hsize hparses (hcalls ▸ hidle)
  rw [run_eq, hnow]
  generalize (receive (DJISerial.init true memory) []
    (calls.map Prod.snd ++ List.replicate idle.length [])).2.2 = messages at hcontents hmessages ⊢
  generalize ((RefSerial.construct buffer).attachAll attached).msgIdToRobotToRobotHandlerMap =
    handlers at hhandlers ⊢
  -- for every message, the handler is that for what it carries
  have hmessage : ∀ message ∈ messages,
      (((RefSerial.handlerOf handlers message).map fun h => (h, message)).map fun call =>
        (call.1, contents call.2)) = ((RefSerial.dispatch handlers (contents message)).map
          fun h => (h, contents message)) := fun message hmem => by
    obtain ⟨hlength, hdata⟩ := hmessages message hmem
    rw [RefSerial.handlerOf_eq_dispatch hlength (DJISerial.dataLength_frameBytes hlength ▸ hdata),
      Option.map_map]
    rfl
  have hcarried : (messages.filterMap fun message =>
      (RefSerial.dispatch handlers (contents message)).map fun h => (h, contents message)) =
        (messages.map contents).filterMap fun m =>
          (RefSerial.dispatch handlers m).map fun h => (h, m) := by
    rw [List.filterMap_map]
    rfl
  rw [List.map_filterMap, List.filterMap_congr hmessage, hcarried, hcontents, List.filterMap_map]
  refine List.filterMap_congr fun m _ => ?_
  simp only [Function.comp_apply, RefSerial.dispatch_serial, hhandlers]

/-- Two handlers, and three messages: for the first handler, for none, and one that is too long. -/
theorem handled_run_three :
    ((run ⟨DJISerial.init true (List.replicate 265 0),
        (RefSerial.construct fun _ => ⟨0, 0⟩).attachAll [(0x200, true), (0x200, false)]⟩ []
        ([(0, wire 1 [([9], ⟨0x200, 2, [1, 2]⟩), ([], ⟨0x201, 2, [3, 4]⟩),
          ([8], ⟨0x200, 2, List.replicate 114 0⟩)])] ++
            (List.replicate 36 0).map fun now => (now, []))).map fun call =>
              (call.1, contents call.2)) =
      (accepted 1 [([9], ⟨0x200, 2, [1, 2]⟩), ([], ⟨0x201, 2, [3, 4]⟩),
        ([8], ⟨0x200, 2, List.replicate 114 0⟩)]).filterMap fun m =>
          (RefSerial.firstHandler [(0x200, true), (0x200, false)] m.msgId).map
            fun h => (h, m.serial 1) :=
  handled_run List.length_replicate (fun _ => ⟨0, 0⟩) [(0x200, true), (0x200, false)] 1
    (by decide) (by simp) (by decide +kernel)

end RefereeLine

end Aimbots.Tap
