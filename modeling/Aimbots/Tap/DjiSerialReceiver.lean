import Aimbots.Tap.DjiSerialChecks
import Mathlib.Tactic.Linarith

/-!
# The receiver of the referee system's serial line

`DJISerial::updateSerial` reads what is in the buffer of the UART: byte by byte up to a head byte,
then the rest of a header, then the rest of a frame, of each as much as there is.  It reads into
`newMessage`, whose bytes from an earlier frame stay where the frame in hand has not come to.

* `reads_updateSerial`: a call reads bytes as `PrefixDecoder.run` does, one at a time.
* `receive_refines`: so do any calls, between any arrivals, and nothing is lost.
* `messages_receive_idle`: what is delivered in the end depends on the bytes alone.
* `receive_stream`: between frames that are written, bytes that are no head bytes do no harm.
* `receive_sound`, `receive_altered`: only frames are delivered, and none with a few bits altered.
-/

namespace Aimbots.Tap

open PrefixDecoder (Verdict IsOpen IsPiece Parses)

/-- `SerialRxState`. -/
inductive SerialRxState
  | SERIAL_HEADER_SEARCH
  | PROCESS_FRAME_HEADER
  | PROCESS_FRAME_DATA
deriving DecidableEq, Repr

/-- `ReceivedSerialMessage`, byte by byte: five bytes of header, two of `messageType`, 256 of `data`
and two of `CRC16`. -/
abbrev ReceivedSerialMessage := List UInt8

/-- The receiving part of a `DJISerial`. -/
structure DJISerial where
  rxCrcEnabled : Bool
  djiSerialRxState : SerialRxState
  newMessage : ReceivedSerialMessage
  mostRecentMessage : ReceivedSerialMessage
  frameCurrReadByte : ℕ
deriving DecidableEq, Repr

/-- What a call of `updateSerial` does to the outside. -/
inductive Outcome
  | none
  | RAISE_ERROR (text : String)
  | messageReceiveCallback (message : ReceivedSerialMessage)
deriving DecidableEq, Repr

/-- The messages that are handed to the callback. -/
def Outcome.messages : Outcome → List ReceivedSerialMessage
  | .messageReceiveCallback message => [message]
  | _ => []

namespace DJISerial

/-- Bytes are written into a message. -/
def setBytes (message : ReceivedSerialMessage) (i : ℕ) (bytes : List UInt8) :
    ReceivedSerialMessage :=
  message.take i ++ bytes ++ message.drop (i + bytes.length)

/-- The constructor; the bytes of `newMessage` behind its header are what the memory held. -/
def init (rxCrcEnabled : Bool) (memory : ReceivedSerialMessage) : DJISerial where
  rxCrcEnabled
  djiSerialRxState := .SERIAL_HEADER_SEARCH
  newMessage := memory
  mostRecentMessage := memory
  frameCurrReadByte := 0

/-- The loop of `SERIAL_HEADER_SEARCH`. -/
def headerSearch (s : DJISerial) : List UInt8 → DJISerial × List UInt8
  | [] => (s, [])
  | byte :: fifo =>
    let s := { s with newMessage := setBytes s.newMessage 0 [byte] }
    if byte = SERIAL_HEAD_BYTE then
      ({ s with djiSerialRxState := .PROCESS_FRAME_HEADER, frameCurrReadByte := 0 }, fifo)
    else headerSearch s fifo

/-- `PROCESS_FRAME_HEADER`. -/
def processFrameHeader (s : DJISerial) (fifo : List UInt8) :
    DJISerial × List UInt8 × Outcome :=
  let read := fifo.take (5 - s.frameCurrReadByte - 1)
  let fifo := fifo.drop (5 - s.frameCurrReadByte - 1)
  let newMessage := setBytes s.newMessage (s.frameCurrReadByte + 1) read
  let frameCurrReadByte := s.frameCurrReadByte + read.length
  if frameCurrReadByte = 5 - 1 then
    let s := { s with newMessage, frameCurrReadByte := 0 }
    if rxCrcFails s then
      ({ s with djiSerialRxState := .SERIAL_HEADER_SEARCH }, fifo, .RAISE_ERROR "CRC8 failure")
    else if SERIAL_RX_BUFF_SIZE ≤ dataLength newMessage then
      ({ s with djiSerialRxState := .SERIAL_HEADER_SEARCH }, fifo,
        .RAISE_ERROR "received message length longer than allowed max")
    else ({ s with djiSerialRxState := .PROCESS_FRAME_DATA }, fifo, .none)
  else ({ s with newMessage, frameCurrReadByte }, fifo, .none)
where
  /-- `verifyCRC8` is asked for, and fails. -/
  rxCrcFails (s : DJISerial) : Bool :=
    s.rxCrcEnabled && calculateCRC8 (s.newMessage.take 4) CRC8_INIT != s.newMessage.getD 4 0

/-- `PROCESS_FRAME_DATA`. -/
def processFrameData (s : DJISerial) (fifo : List UInt8) : DJISerial × List UInt8 × Outcome :=
  let bytesToRead := 2 + dataLength s.newMessage + if s.rxCrcEnabled then 2 else 0
  let read := fifo.take (bytesToRead - s.frameCurrReadByte)
  let fifo := fifo.drop (bytesToRead - s.frameCurrReadByte)
  let newMessage := setBytes s.newMessage (5 + s.frameCurrReadByte) read
  let frameCurrReadByte := s.frameCurrReadByte + read.length
  if frameCurrReadByte = bytesToRead then
    let newMessage := if s.rxCrcEnabled then moveCRC16 newMessage else newMessage
    let s := { s with newMessage, frameCurrReadByte, djiSerialRxState := .SERIAL_HEADER_SEARCH }
    if s.rxCrcEnabled && calculateCRC16 (newMessage.take (5 + 2 + dataLength newMessage))
        CRC16_INIT != uint16OfBytes (newMessage.getD 263 0) (newMessage.getD 264 0) then
      (s, fifo, .RAISE_ERROR "CRC16 failure")
    else
      ({ s with mostRecentMessage := newMessage }, fifo, .messageReceiveCallback newMessage)
  else if bytesToRead < frameCurrReadByte then
    ({ s with newMessage, frameCurrReadByte := 0, djiSerialRxState := .SERIAL_HEADER_SEARCH }, fifo,
      .RAISE_ERROR "Invalid message length")
  else ({ s with newMessage, frameCurrReadByte }, fifo, .none)
where
  /-- The check is moved from behind the data to the field `CRC16`. -/
  moveCRC16 (message : ReceivedSerialMessage) : ReceivedSerialMessage :=
    setBytes message 263
      [message.getD (7 + dataLength message) 0, message.getD (8 + dataLength message) 0]

/-- `updateSerial`; `fifo` is what the UART has received and not handed out. -/
def updateSerial (s : DJISerial) (fifo : List UInt8) : DJISerial × List UInt8 × Outcome :=
  match s.djiSerialRxState with
  | .SERIAL_HEADER_SEARCH => ((headerSearch s fifo).1, (headerSearch s fifo).2, .none)
  | .PROCESS_FRAME_HEADER => processFrameHeader s fifo
  | .PROCESS_FRAME_DATA => processFrameData s fifo

/-! ### What has been read -/

/-- The bytes that have been read of the frame in hand. -/
def pending (s : DJISerial) : List UInt8 :=
  match s.djiSerialRxState with
  | .SERIAL_HEADER_SEARCH => []
  | .PROCESS_FRAME_HEADER => s.newMessage.take (s.frameCurrReadByte + 1)
  | .PROCESS_FRAME_DATA => s.newMessage.take (5 + s.frameCurrReadByte)

/-- The receiver never writes behind `newMessage`, and what it has in hand begins a frame. -/
structure Inv (s : DJISerial) : Prop where
  length : s.newMessage.length = 265
  isPending : IsPending s.rxCrcEnabled s.pending
  header : s.djiSerialRxState = .PROCESS_FRAME_HEADER → s.frameCurrReadByte < 4

/-- The frame that a message was read from. -/
def frameBytes (rxCrcEnabled : Bool) (message : ReceivedSerialMessage) : List UInt8 :=
  message.take (7 + dataLength message) ++
    if rxCrcEnabled then [message.getD 263 0, message.getD 264 0] else []

variable {s : DJISerial} {fifo l f : List UInt8} {m : ReceivedSerialMessage} {i n : ℕ}
  {bytes : List UInt8}

theorem length_setBytes (h : i + bytes.length ≤ m.length) :
    (setBytes m i bytes).length = m.length := by
  simp only [setBytes, List.length_append, List.length_take, List.length_drop]
  omega

theorem take_setBytes (h : i ≤ m.length) :
    (setBytes m i bytes).take (i + bytes.length) = m.take i ++ bytes := by
  have hlen : (m.take i ++ bytes).length = i + bytes.length := by
    rw [List.length_append, List.length_take, Nat.min_eq_left h]
  rw [setBytes, ← hlen, List.take_left]

theorem take_setBytes_of_le (h : i ≤ m.length) (hn : n ≤ i) :
    (setBytes m i bytes).take n = m.take n := by
  rw [setBytes, List.append_assoc, List.take_append_of_le_length (by rw [List.length_take]; omega),
    List.take_take, Nat.min_eq_left hn]

theorem getD_setBytes {k : ℕ} (h : i ≤ m.length) (hk : k < bytes.length) :
    (setBytes m i bytes).getD (i + k) 0 = bytes.getD k 0 := by
  have hlen : (m.take i).length = i := by rw [List.length_take, Nat.min_eq_left h]
  rw [setBytes, List.append_assoc, List.getD_append_right _ _ _ _ (by omega), hlen,
    Nat.add_sub_cancel_left, List.getD_append _ _ _ _ hk]

theorem getD_take {k : ℕ} (h : k < n) : (f.take n).getD k 0 = f.getD k 0 := by
  rw [List.getD_eq_getElem?_getD, List.getD_eq_getElem?_getD, List.getElem?_take, if_pos h]

theorem dataLength_take (h : 3 ≤ n) : dataLength (f.take n) = dataLength f := by
  rw [dataLength, dataLength, getD_take (by omega), getD_take (by omega)]

theorem headerChecks_take {c : Bool} (h : 5 ≤ n) :
    HeaderChecks c (f.take n) ↔ HeaderChecks c f := by
  rw [HeaderChecks, HeaderChecks, dataLength_take (by omega), getD_take (by omega), List.take_take,
    Nat.min_eq_left (by omega)]

theorem frameLength_take {c : Bool} (h : 3 ≤ n) : frameLength c (f.take n) = frameLength c f := by
  rw [frameLength, dataLength_take h, frameLength]

/-! ### One call -/

/-- **A call reads** some bytes, as the decoder does one at a time, and at least one if there is
one. -/
def Reads (s : DJISerial) (fifo : List UInt8) (r : DJISerial × List UInt8 × Outcome) : Prop :=
  ∃ used, fifo = used ++ r.2.1 ∧
    PrefixDecoder.run (verdict s.rxCrcEnabled) s.pending used =
      (r.1.pending, r.2.2.messages.map (frameBytes s.rxCrcEnabled)) ∧
    Inv r.1 ∧ r.1.rxCrcEnabled = s.rxCrcEnabled ∧ (fifo ≠ [] → used ≠ []) ∧
    ∀ message ∈ r.2.2.messages, message.length = 265

section Outcomes

variable {s' : DJISerial} {fifo' used : List UInt8}

/-- The bytes that are read leave a frame in hand. -/
theorem reads_of_open (hfifo : fifo = used ++ fifo') (hsome : fifo ≠ [] → used ≠ [])
    (hopen : IsPending s.rxCrcEnabled (s.pending ++ used))
    (hpending : s'.pending = s.pending ++ used)
    (hlength : s'.newMessage.length = 265)
    (hheader : s'.djiSerialRxState = .PROCESS_FRAME_HEADER → s'.frameCurrReadByte < 4)
    (hcrc : s'.rxCrcEnabled = s.rxCrcEnabled) : Reads s fifo (s', fifo', .none) := by
  refine ⟨used, hfifo, ?_, ⟨hlength, ?_, hheader⟩, hcrc, hsome, by simp [Outcome.messages]⟩
  · rw [PrefixDecoder.run_open (isOpen_iff_isPending.2 hopen), hpending]
    rfl
  · rw [hcrc, hpending]
    exact hopen

/-- The bytes that are read end a frame that is turned away. -/
theorem reads_of_reject {text : String} (hfifo : fifo = used ++ fifo') (hne : used ≠ [])
    (hpiece : IsPiece (verdict s.rxCrcEnabled) .reject (s.pending ++ used))
    (hstate : s'.djiSerialRxState = .SERIAL_HEADER_SEARCH) (hlength : s'.newMessage.length = 265)
    (hcrc : s'.rxCrcEnabled = s.rxCrcEnabled) : Reads s fifo (s', fifo', .RAISE_ERROR text) := by
  have hpending : s'.pending = [] := by rw [pending, hstate]
  refine ⟨used, hfifo, ?_, ⟨hlength, ?_, by simp [hstate]⟩, hcrc, fun _ => hne,
    by simp [Outcome.messages]⟩
  · rw [PrefixDecoder.run_piece hpiece hne, hpending]
    rfl
  · rw [hpending]
    exact Or.inl rfl

/-- The bytes that are read end a frame that is handed to the callback. -/
theorem reads_of_accept {message : ReceivedSerialMessage} (hfifo : fifo = used ++ fifo')
    (hne : used ≠ []) (hpiece : IsPiece (verdict s.rxCrcEnabled) .accept (s.pending ++ used))
    (hframe : frameBytes s.rxCrcEnabled message = s.pending ++ used)
    (hstate : s'.djiSerialRxState = .SERIAL_HEADER_SEARCH) (hlength : s'.newMessage.length = 265)
    (hmessage : message.length = 265) (hcrc : s'.rxCrcEnabled = s.rxCrcEnabled) :
    Reads s fifo (s', fifo', .messageReceiveCallback message) := by
  have hpending : s'.pending = [] := by rw [pending, hstate]
  refine ⟨used, hfifo, ?_, ⟨hlength, ?_, by simp [hstate]⟩, hcrc, fun _ => hne,
    by simpa [Outcome.messages] using hmessage⟩
  · rw [PrefixDecoder.run_piece hpiece hne, hpending]
    simp only [if_true, Outcome.messages, List.map_cons, List.map_nil, hframe]
  · rw [hpending]
    exact Or.inl rfl

end Outcomes

/-- A read of `want` bytes, or of as many as there are, into a message from an index on. -/
structure Filled (m : ReceivedSerialMessage) (start want : ℕ) (fifo used : List UInt8)
    (newMessage : ReceivedSerialMessage) : Prop where
  split : fifo = used ++ fifo.drop want
  read : used.length = min want fifo.length
  length : newMessage.length = 265
  take : newMessage.take (start + used.length) = m.take start ++ used
  rest : ∀ n ≤ start, newMessage.take n = m.take n

section Filled

variable {start want : ℕ} {used : List UInt8} {newMessage : ReceivedSerialMessage}

theorem filled_setBytes (start want : ℕ) (hm : m.length = 265) (hwant : start + want ≤ 265)
    (fifo : List UInt8) :
    Filled m start want fifo (fifo.take want) (setBytes m start (fifo.take want)) where
  split := (List.take_append_drop want fifo).symm
  read := List.length_take
  length := by
    rw [length_setBytes (by rw [List.length_take]; omega), hm]
  take := take_setBytes (by omega)
  rest n hn := take_setBytes_of_le (by omega) hn

theorem Filled.ne_nil (h : Filled m start want fifo used newMessage) (hwant : 0 < want)
    (hne : fifo ≠ []) : used ≠ [] := by
  have hpos := List.length_pos_of_ne_nil hne
  have hread := h.read
  exact List.ne_nil_of_length_pos (by omega)

end Filled

theorem reads_headerSearch (hlength : s.newMessage.length = 265)
    (hstate : s.djiSerialRxState = .SERIAL_HEADER_SEARCH) :
    Reads s fifo ((headerSearch s fifo).1, (headerSearch s fifo).2, .none) := by
  have hpending : s.pending = [] := by rw [pending, hstate]
  induction fifo generalizing s with
  | nil =>
    refine ⟨[], rfl, by rw [hpending]; simp [headerSearch, hpending, Outcome.messages], ?_, rfl, id,
      by simp [Outcome.messages]⟩
    exact ⟨hlength, by rw [headerSearch, hpending]; exact Or.inl rfl,
      by simp [headerSearch, hstate]⟩
  | cons byte fifo ih =>
    have hset : (setBytes s.newMessage 0 [byte]).length = 265 := by
      rw [length_setBytes (by simp; omega), hlength]
    by_cases hbyte : byte = SERIAL_HEAD_BYTE
    · have hsearch : headerSearch s (byte :: fifo) =
          ({ s with newMessage := setBytes s.newMessage 0 [byte],
                    djiSerialRxState := .PROCESS_FRAME_HEADER, frameCurrReadByte := 0 }, fifo) := by
        rw [headerSearch]
        exact if_pos hbyte
      have hmore : IsPending s.rxCrcEnabled (s.pending ++ [byte]) := by
        rw [hpending]
        exact Or.inr ⟨congrArg some hbyte, Or.inl (by simp)⟩
      rw [hsearch]
      exact reads_of_open (show byte :: fifo = [byte] ++ fifo from rfl) (by simp) hmore
        (by rw [hpending]; rfl) hset (fun _ => by simp) rfl
    · have hsearch : headerSearch s (byte :: fifo) =
          headerSearch { s with newMessage := setBytes s.newMessage 0 [byte] } fifo := by
        rw [headerSearch]
        exact if_neg hbyte
      obtain ⟨used, hfifo, hrun, hinv, hcrc, -, hmessages⟩ :=
        ih (s := { s with newMessage := setBytes s.newMessage 0 [byte] }) hset hstate
          (by rw [pending, hstate])
      have hskip : IsPiece (verdict s.rxCrcEnabled) .reject [byte] :=
        isPiece_reject_head (g := [byte]) (by simp) (by simpa using hbyte)
      rw [hsearch]
      refine ⟨byte :: used, by rw [List.cons_append, ← hfifo], ?_, hinv, hcrc, by simp, hmessages⟩
      rw [← List.singleton_append, PrefixDecoder.run_append, hpending,
        PrefixDecoder.run_piece (p := []) hskip (by simp)]
      have hpend : pending { s with newMessage := setBytes s.newMessage 0 [byte] } = [] := by
        rw [pending, hstate]
      rw [hpend] at hrun
      simp only [reduceCtorEq, if_false, List.nil_append]
      rw [hrun]

/-- The receiver's tests of a header are those of the frame that it begins. -/
theorem headerChecks_iff : HeaderChecks s.rxCrcEnabled s.newMessage ↔
    ¬ processFrameHeader.rxCrcFails s ∧ ¬ SERIAL_RX_BUFF_SIZE ≤ dataLength s.newMessage := by
  rw [HeaderChecks, processFrameHeader.rxCrcFails, Nat.not_le]
  cases s.rxCrcEnabled <;> simp

/-- A header that is complete. -/
theorem reads_header {used fifo' : List UInt8} {newMessage : ReceivedSerialMessage}
    (hfifo : fifo = used ++ fifo') (hne : used ≠ []) (hlength : newMessage.length = 265)
    (hfive : newMessage.take 5 = s.pending ++ used)
    (hhead : (s.pending ++ used).head? = some SERIAL_HEAD_BYTE) :
    let s' := { s with newMessage, frameCurrReadByte := 0 }
    Reads s fifo (if processFrameHeader.rxCrcFails s' then
        ({ s' with djiSerialRxState := .SERIAL_HEADER_SEARCH }, fifo', .RAISE_ERROR "CRC8 failure")
      else if SERIAL_RX_BUFF_SIZE ≤ dataLength newMessage then
        ({ s' with djiSerialRxState := .SERIAL_HEADER_SEARCH }, fifo',
          .RAISE_ERROR "received message length longer than allowed max")
      else ({ s' with djiSerialRxState := .PROCESS_FRAME_DATA }, fifo', .none)) := by
  intro s'
  have hlen : (s.pending ++ used).length = 5 := by
    rw [← hfive, List.length_take]
    omega
  have hchecks : HeaderChecks s.rxCrcEnabled (s.pending ++ used) ↔
      HeaderChecks s.rxCrcEnabled newMessage := by
    rw [← hfive, headerChecks_take (Nat.le_refl 5)]
  have hiff : HeaderChecks s.rxCrcEnabled newMessage ↔
      ¬ processFrameHeader.rxCrcFails s' ∧ ¬ SERIAL_RX_BUFF_SIZE ≤ dataLength newMessage :=
    headerChecks_iff (s := s')
  have hreject : ¬ HeaderChecks s.rxCrcEnabled newMessage →
      IsPiece (verdict s.rxCrcEnabled) .reject (s.pending ++ used) := fun hno =>
    isPiece_reject_header hlen hhead (mt hchecks.1 hno)
  by_cases hcrc : processFrameHeader.rxCrcFails s'
  · rw [if_pos hcrc]
    exact reads_of_reject hfifo hne (hreject fun h => (hiff.1 h).1 hcrc) rfl hlength rfl
  by_cases hmax : SERIAL_RX_BUFF_SIZE ≤ dataLength newMessage
  · rw [if_neg hcrc, if_pos hmax]
    exact reads_of_reject hfifo hne (hreject fun h => (hiff.1 h).2 hmax) rfl hlength rfl
  · rw [if_neg hcrc, if_neg hmax]
    have hseven : 7 ≤ frameLength s.rxCrcEnabled (s.pending ++ used) := seven_le_frameLength
    have hopen : IsPending s.rxCrcEnabled (s.pending ++ used) :=
      Or.inr ⟨hhead, Or.inr ⟨hchecks.2 (hiff.2 ⟨hcrc, hmax⟩), by omega⟩⟩
    exact reads_of_open hfifo (fun _ => hne) hopen hfive hlength (by simp) rfl

theorem reads_processFrameHeader (hinv : Inv s)
    (hstate : s.djiSerialRxState = .PROCESS_FRAME_HEADER) :
    Reads s fifo (processFrameHeader s fifo) := by
  obtain ⟨hlength, hpend, hcur⟩ := hinv
  replace hcur := hcur hstate
  have hpending : s.pending = s.newMessage.take (s.frameCurrReadByte + 1) := by
    rw [pending, hstate]
  have hcount : s.pending.length = s.frameCurrReadByte + 1 := by
    rw [hpending, List.length_take]
    omega
  obtain ⟨hhead, -⟩ := hpend.resolve_left (List.ne_nil_of_length_pos (by omega))
  have hfilled := filled_setBytes (s.frameCurrReadByte + 1) (5 - s.frameCurrReadByte - 1) hlength
    (by omega) fifo
  rw [processFrameHeader]
  generalize fifo.take (5 - s.frameCurrReadByte - 1) = used at hfilled ⊢
  generalize setBytes s.newMessage (s.frameCurrReadByte + 1) used = newMessage at hfilled ⊢
  have hsome : fifo ≠ [] → used ≠ [] := hfilled.ne_nil (by omega)
  have htake : newMessage.take (s.frameCurrReadByte + 1 + used.length) = s.pending ++ used := by
    rw [hfilled.take, hpending]
  have hheadnew : (s.pending ++ used).head? = some SERIAL_HEAD_BYTE := by
    rw [List.head?_append, hhead]
    rfl
  have hread := hfilled.read
  by_cases hfull : s.frameCurrReadByte + used.length = 5 - 1
  · simp only [if_pos hfull]
    refine reads_header hfilled.split (List.ne_nil_of_length_pos (by omega))
      hfilled.length ?_ hheadnew
    rw [← htake]
    congr 1
    omega
  · simp only [if_neg hfull]
    have hopen : IsPending s.rxCrcEnabled (s.pending ++ used) := by
      refine Or.inr ⟨hheadnew, Or.inl ?_⟩
      rw [List.length_append, hcount]
      omega
    refine reads_of_open hfilled.split hsome hopen ?_ hfilled.length (fun _ => ?_) rfl
    · rw [← htake, pending]
      simp only [hstate]
      congr 1
      omega
    · show s.frameCurrReadByte + used.length < 4
      omega

/-- The whole message, with the check in its field. -/
theorem take_moveCRC16 (hm : m.length = 265) (hn : n ≤ 263) :
    (processFrameData.moveCRC16 m).take n = m.take n :=
  take_setBytes_of_le (by omega) hn

theorem dataLength_moveCRC16 (hm : m.length = 265) :
    dataLength (processFrameData.moveCRC16 m) = dataLength m := by
  rw [← dataLength_take (n := 3) (Nat.le_refl 3), take_moveCRC16 hm (by omega),
    dataLength_take (Nat.le_refl 3)]

theorem getD_moveCRC16 (hm : m.length = 265) :
    (processFrameData.moveCRC16 m).getD 263 0 = m.getD (7 + dataLength m) 0 ∧
      (processFrameData.moveCRC16 m).getD 264 0 = m.getD (8 + dataLength m) 0 :=
  ⟨getD_setBytes (i := 263) (k := 0) (by omega) (by simp),
    getD_setBytes (i := 263) (k := 1) (by omega) (by simp)⟩

theorem take_add_two (h : n + 2 ≤ f.length) :
    f.take (n + 2) = f.take n ++ [f.getD n 0, f.getD (n + 1) 0] := by
  rw [List.take_add_one, List.take_add_one, List.getElem?_eq_getElem (by omega),
    List.getElem?_eq_getElem (by omega), List.getD_eq_getElem _ _ (by omega),
    List.getD_eq_getElem _ _ (by omega), List.append_assoc]
  rfl

/-- What the callback is handed is the frame that was read. -/
theorem frameBytes_of_read {c : Bool} (hm : m.length = 265) (hsize : dataLength m < 256) :
    frameBytes c (if c then processFrameData.moveCRC16 m else m) = m.take (frameLength c m) := by
  cases c
  · simp [frameBytes, frameLength]
  · simp only [frameBytes, frameLength, if_true]
    rw [dataLength_moveCRC16 hm, take_moveCRC16 hm (by omega), (getD_moveCRC16 hm).1,
      (getD_moveCRC16 hm).2, take_add_two (by omega)]
    simp only [Nat.add_right_comm 7 _ 1]

/-- The receiver's test of a frame is that of the bytes that were read. -/
theorem bodyChecks_iff {c : Bool} (hm : m.length = 265) (hsize : dataLength m < 256) :
    BodyChecks c (m.take (frameLength c m)) ↔
      (c && calculateCRC16 ((if c then processFrameData.moveCRC16 m else m).take (5 + 2 +
          dataLength (if c then processFrameData.moveCRC16 m else m))) CRC16_INIT !=
        uint16OfBytes ((if c then processFrameData.moveCRC16 m else m).getD 263 0)
          ((if c then processFrameData.moveCRC16 m else m).getD 264 0)) = false := by
  cases c
  · simp [BodyChecks]
  · have hthree : 3 ≤ frameLength true m := by rw [frameLength]; omega
    have hlong : 9 + dataLength m = frameLength true m := by rw [frameLength, if_pos rfl]; omega
    simp only [if_true, Bool.true_and, bne_eq_false_iff_eq]
    rw [BodyChecks, dataLength_take hthree, dataLength_moveCRC16 hm, take_moveCRC16 hm (by omega),
      (getD_moveCRC16 hm).1, (getD_moveCRC16 hm).2, List.take_take, getD_take (by omega),
      getD_take (by omega), Nat.min_eq_left (by omega)]
    simp

/-- A frame that is complete. -/
theorem reads_frame {used fifo' : List UInt8} {newMessage : ReceivedSerialMessage}
    (hfifo : fifo = used ++ fifo') (hne : used ≠ []) (hlength : newMessage.length = 265)
    (hhead : newMessage.head? = some SERIAL_HEAD_BYTE)
    (hheader : HeaderChecks s.rxCrcEnabled newMessage)
    (hwhole : s.pending ++ used = newMessage.take (frameLength s.rxCrcEnabled newMessage))
    (hlong : frameLength s.rxCrcEnabled newMessage ≤ 264) (frameCurrReadByte : ℕ) :
    let moved := if s.rxCrcEnabled then processFrameData.moveCRC16 newMessage else newMessage
    let s' := { s with newMessage := moved, frameCurrReadByte,
                       djiSerialRxState := .SERIAL_HEADER_SEARCH }
    Reads s fifo (if s'.rxCrcEnabled && calculateCRC16 (moved.take (5 + 2 + dataLength moved))
        CRC16_INIT != uint16OfBytes (moved.getD 263 0) (moved.getD 264 0) then
        (s', fifo', .RAISE_ERROR "CRC16 failure")
      else ({ s' with mostRecentMessage := moved }, fifo', .messageReceiveCallback moved)) := by
  intro moved s'
  have hseven : 7 ≤ frameLength s.rxCrcEnabled newMessage := seven_le_frameLength
  have hbody := bodyChecks_iff (c := s.rxCrcEnabled) hlength hheader.2
  have hframebytes := frameBytes_of_read (c := s.rxCrcEnabled) hlength hheader.2
  rw [← hwhole] at hbody hframebytes
  have hmoved : moved.length = 265 := by
    show (if s.rxCrcEnabled then processFrameData.moveCRC16 newMessage else newMessage).length = 265
    split_ifs
    · rw [processFrameData.moveCRC16, length_setBytes (by simp [hlength]), hlength]
    · exact hlength
  have hhead' : (s.pending ++ used).head? = some SERIAL_HEAD_BYTE := by
    rw [hwhole, List.head?_take, if_neg (by omega), hhead]
  have hheader' : HeaderChecks s.rxCrcEnabled (s.pending ++ used) := by
    rw [hwhole, headerChecks_take (by omega)]
    exact hheader
  have hlen' : (s.pending ++ used).length = frameLength s.rxCrcEnabled (s.pending ++ used) := by
    rw [hwhole, frameLength_take (by omega), List.length_take]
    omega
  by_cases hcrc : (s'.rxCrcEnabled && calculateCRC16 (moved.take (5 + 2 + dataLength moved))
      CRC16_INIT != uint16OfBytes (moved.getD 263 0) (moved.getD 264 0)) = true
  · rw [if_pos hcrc]
    have hno : ¬ BodyChecks s.rxCrcEnabled (s.pending ++ used) := by
      rw [hbody]
      exact fun hpass => Bool.false_ne_true (hpass.symm.trans hcrc)
    exact reads_of_reject hfifo hne (isPiece_reject_body hhead' hheader' hlen' hno) rfl hmoved rfl
  · rw [if_neg hcrc]
    have hyes : BodyChecks s.rxCrcEnabled (s.pending ++ used) :=
      hbody.2 (Bool.eq_false_iff.2 hcrc)
    exact reads_of_accept hfifo hne
      (isPiece_accept_iff_isFrame.2 ⟨hhead', hheader', hlen', hyes⟩) hframebytes rfl
        hmoved hmoved rfl

theorem reads_processFrameData (hinv : Inv s)
    (hstate : s.djiSerialRxState = .PROCESS_FRAME_DATA) :
    Reads s fifo (processFrameData s fifo) := by
  obtain ⟨hlength, hpend, -⟩ := hinv
  have hpending : s.pending = s.newMessage.take (5 + s.frameCurrReadByte) := by
    rw [pending, hstate]
  rw [hpending] at hpend
  obtain ⟨hhead, hchecks⟩ := hpend.resolve_left (List.ne_nil_of_length_pos (by
    rw [List.length_take]
    omega))
  obtain ⟨hheader, hlt⟩ := hchecks.resolve_left (by rw [List.length_take]; omega)
  rw [headerChecks_take (by omega)] at hheader
  rw [frameLength_take (by omega), List.length_take] at hlt
  have hsize : dataLength s.newMessage < 256 := hheader.2
  have hframe : frameLength s.rxCrcEnabled s.newMessage =
      5 + (2 + dataLength s.newMessage + if s.rxCrcEnabled then 2 else 0) := by
    rw [frameLength]
    omega
  have hmax : frameLength s.rxCrcEnabled s.newMessage ≤ 264 := by
    rw [hframe]
    split_ifs <;> omega
  rw [processFrameData]
  dsimp only
  generalize (2 + dataLength s.newMessage + if s.rxCrcEnabled then 2 else 0) =
    bytesToRead at hframe ⊢
  have hfilled :=
    filled_setBytes (5 + s.frameCurrReadByte) (bytesToRead - s.frameCurrReadByte) hlength
    (by omega) fifo
  generalize fifo.take (bytesToRead - s.frameCurrReadByte) = used at hfilled ⊢
  generalize setBytes s.newMessage (5 + s.frameCurrReadByte) used = newMessage at hfilled ⊢
  have hsome : fifo ≠ [] → used ≠ [] := hfilled.ne_nil (by omega)
  have htake : newMessage.take (5 + s.frameCurrReadByte + used.length) = s.pending ++ used := by
    rw [hfilled.take, hpending]
  -- what is read now lies behind the header
  have hfive : newMessage.take 5 = s.newMessage.take 5 := hfilled.rest 5 (Nat.le_add_right 5 _)
  have hdata : dataLength newMessage = dataLength s.newMessage := by
    rw [← dataLength_take (n := 5) (by omega), hfive, dataLength_take (by omega)]
  have hframenew : frameLength s.rxCrcEnabled newMessage = 5 + bytesToRead := by
    rw [← hframe, frameLength, hdata, frameLength]
  have hheadnew : newMessage.head? = some SERIAL_HEAD_BYTE := by
    have hfirst : (newMessage.take 5).head? = some SERIAL_HEAD_BYTE := by
      rw [hfive, ← hhead, List.head?_take, List.head?_take, if_neg (by omega), if_neg (by omega)]
    rwa [List.head?_take, if_neg (by omega)] at hfirst
  have hheadernew : HeaderChecks s.rxCrcEnabled newMessage := by
    rw [← headerChecks_take (n := 5) (Nat.le_refl 5), hfive, headerChecks_take (Nat.le_refl 5)]
    exact hheader
  have hread := hfilled.read
  by_cases hfull : s.frameCurrReadByte + used.length = bytesToRead
  · rw [if_pos hfull]
    refine reads_frame hfilled.split (List.ne_nil_of_length_pos (by omega)) hfilled.length hheadnew
      hheadernew ?_ (by omega) _
    rw [← htake, hframenew]
    congr 1
    omega
  · rw [if_neg hfull, if_neg (by omega)]
    have hopen : IsPending s.rxCrcEnabled (s.pending ++ used) := by
      rw [← htake]
      refine Or.inr ⟨by rw [List.head?_take, if_neg (by omega), hheadnew], Or.inr ⟨?_, ?_⟩⟩
      · rw [headerChecks_take (by omega)]
        exact hheadernew
      · rw [frameLength_take (by omega), List.length_take]
        have hlong := hfilled.length
        omega
    refine reads_of_open hfilled.split hsome hopen ?_ hfilled.length (by simp [hstate]) rfl
    rw [← htake, pending]
    simp only [hstate]
    congr 1
    omega

/-- **One call**, in whatever state. -/
theorem reads_updateSerial (hinv : Inv s) (fifo : List UInt8) :
    Reads s fifo (updateSerial s fifo) := by
  cases hstate : s.djiSerialRxState with
  | SERIAL_HEADER_SEARCH =>
    rw [updateSerial, hstate]
    exact reads_headerSearch hinv.length hstate
  | PROCESS_FRAME_HEADER =>
    rw [updateSerial, hstate]
    exact reads_processFrameHeader hinv hstate
  | PROCESS_FRAME_DATA =>
    rw [updateSerial, hstate]
    exact reads_processFrameData hinv hstate

/-! ### Runs -/

/-- Calls of `updateSerial`; before each of them some bytes arrive. -/
def receive (s : DJISerial) (fifo : List UInt8) :
    List (List UInt8) → DJISerial × List UInt8 × List ReceivedSerialMessage
  | [] => (s, fifo, [])
  | arrived :: calls =>
    let r := updateSerial s (fifo ++ arrived)
    let t := receive r.1 r.2.1 calls
    (t.1, t.2.1, r.2.2.messages ++ t.2.2)

variable {calls : List (List UInt8)} {c : Bool} {memory : ReceivedSerialMessage}

theorem receive_append {more : List (List UInt8)} : receive s fifo (calls ++ more) =
    let r := receive s fifo calls
    let t := receive r.1 r.2.1 more
    (t.1, t.2.1, r.2.2 ++ t.2.2) := by
  induction calls generalizing s fifo with
  | nil => rfl
  | cons arrived calls ih => simp only [List.cons_append, receive, ih, List.append_assoc]

/-- **Any calls** read the bytes as the decoder does, and lose none. -/
theorem receive_spec (hinv : Inv s) (fifo : List UInt8) (calls : List (List UInt8)) : ∃ used,
    fifo ++ calls.flatten = used ++ (receive s fifo calls).2.1 ∧
    PrefixDecoder.run (verdict s.rxCrcEnabled) s.pending used =
      ((receive s fifo calls).1.pending,
        (receive s fifo calls).2.2.map (frameBytes s.rxCrcEnabled)) ∧
    Inv (receive s fifo calls).1 ∧
    ∀ message ∈ (receive s fifo calls).2.2, message.length = 265 := by
  induction calls generalizing s fifo with
  | nil => exact ⟨[], by simp [receive], rfl, hinv, by simp [receive]⟩
  | cons arrived calls ih =>
    obtain ⟨used, hfifo, hrun, hinv', hcrc, -, hmessages⟩ :=
      reads_updateSerial hinv (fifo ++ arrived)
    obtain ⟨used', hfifo', hrun', hinv'', hmessages'⟩ :=
      ih hinv' (updateSerial s (fifo ++ arrived)).2.1
    refine ⟨used ++ used', ?_, ?_, hinv'', ?_⟩
    · rw [List.flatten_cons, ← List.append_assoc, hfifo, List.append_assoc, hfifo',
        List.append_assoc]
      rfl
    · rw [hcrc] at hrun'
      rw [PrefixDecoder.run_append, hrun]
      simp only [receive, hrun', List.map_append]
    · intro message hmessage
      rcases List.mem_append.1 hmessage with h | h
      · exact hmessages message h
      · exact hmessages' message h

/-- Calls without arrivals empty the buffer. -/
theorem receive_idle (hinv : Inv s) (h : fifo.length ≤ n) :
    (receive s fifo (List.replicate n [])).2.1 = [] := by
  induction n generalizing s fifo with
  | zero => exact List.length_eq_zero_iff.1 (Nat.le_zero.1 h)
  | succ n ih =>
    obtain ⟨used, hfifo, -, hinv', -, hsome, -⟩ := reads_updateSerial hinv fifo
    rw [List.replicate_succ, receive]
    simp only [List.append_nil]
    refine ih hinv' ?_
    have hlen := congrArg List.length hfifo
    rw [List.length_append] at hlen
    by_cases hne : fifo = []
    · subst hne
      rw [List.length_nil] at hlen
      omega
    · have hpos := List.length_pos_of_ne_nil (hsome hne)
      omega

theorem inv_init (hm : memory.length = 265) : Inv (init c memory) :=
  ⟨hm, Or.inl rfl, by simp [init]⟩

/-- **What is delivered in the end** depends on the bytes alone, not on when they arrived and when
the receiver was called. -/
theorem messages_receive_idle (hm : memory.length = 265) (hn : calls.flatten.length ≤ n) :
    (receive (init c memory) [] (calls ++ List.replicate n [])).2.2.map (frameBytes c) =
      (PrefixDecoder.run (verdict c) [] calls.flatten).2 := by
  obtain ⟨used, hfifo, hrun, hinv, -⟩ :=
    receive_spec (inv_init (c := c) hm) [] (calls ++ List.replicate n [])
  obtain ⟨_, hbefore, -, hinv₁, -⟩ :=
    receive_spec (inv_init (c := c) hm) [] calls
  have hempty : (receive (init c memory) [] (calls ++ List.replicate n [])).2.1 = [] := by
    rw [receive_append]
    refine receive_idle hinv₁ ?_
    have hlen := congrArg List.length hbefore
    rw [List.nil_append, List.length_append] at hlen
    omega
  have hidle : (calls ++ List.replicate n []).flatten = calls.flatten := by
    simp [List.flatten_append]
  rw [hempty, List.append_nil, List.nil_append, hidle] at hfifo
  rw [hfifo]
  exact (congrArg Prod.snd hrun).symm

/-- **The receiver refines the decoder**: whenever bytes arrive and however often it is called, it
has read some of the bytes, in order, as the frames and the beginning of a frame that they are; the
others are in the buffer; and it has not written behind `newMessage`.  After as many calls more as
there are bytes, it has delivered the frames of all bytes. -/
theorem receive_refines (c : Bool) (memory : ReceivedSerialMessage) (hm : memory.length = 265)
    (calls : List (List UInt8)) : (∃ used,
    calls.flatten = used ++ (receive (init c memory) [] calls).2.1 ∧
    Parses (verdict c) used ((receive (init c memory) [] calls).2.2.map (frameBytes c))
      (receive (init c memory) [] calls).1.pending ∧
    (receive (init c memory) [] calls).1.newMessage.length = 265) ∧
    ∃ rest, Parses (verdict c) calls.flatten
      ((receive (init c memory) [] (calls ++ List.replicate calls.flatten.length [])).2.2.map
        (frameBytes c)) rest := by
  obtain ⟨used, hfifo, hrun, hinv, -⟩ := receive_spec (inv_init hm) [] calls
  refine ⟨⟨used, hfifo, PrefixDecoder.run_eq_iff_parses.1 hrun, hinv.length⟩, ?_⟩
  rw [messages_receive_idle hm (Nat.le_refl _)]
  exact ⟨_, PrefixDecoder.run_eq_iff_parses.1 rfl⟩

/-- The bytes of a frame behind another byte, which arrive before the first and the second call. -/
def frameCalls : List (List UInt8) :=
  [1 :: (SerialMessage.bytes ⟨3, 0x201, [4, 5]⟩).take 4,
    (SerialMessage.bytes ⟨3, 0x201, [4, 5]⟩).drop 4, [], []]

theorem receive_refines_zeros : (∃ used,
    frameCalls.flatten = used ++ (receive (init true (List.replicate 265 0)) [] frameCalls).2.1 ∧
    Parses (verdict true) used
      ((receive (init true (List.replicate 265 0)) [] frameCalls).2.2.map (frameBytes true))
      (receive (init true (List.replicate 265 0)) [] frameCalls).1.pending ∧
    (receive (init true (List.replicate 265 0)) [] frameCalls).1.newMessage.length = 265) ∧
    ∃ rest, Parses (verdict true) frameCalls.flatten
      ((receive (init true (List.replicate 265 0)) []
        (frameCalls ++ List.replicate frameCalls.flatten.length [])).2.2.map (frameBytes true))
      rest :=
  receive_refines true (List.replicate 265 0) List.length_replicate frameCalls

/-- The last call delivers the frame. -/
example : (receive (init true (List.replicate 265 0)) [] frameCalls).2.2.map (frameBytes true) =
    [SerialMessage.bytes ⟨3, 0x201, [4, 5]⟩] := by
  decide +kernel

/-! ### Frames that are written -/

/-- What a message carries, as its fields have it. -/
def contents (message : List UInt8) : SerialMessage where
  seq := message.getD 3 0
  messageType := uint16OfBytes (message.getD 5 0) (message.getD 6 0)
  data := (message.drop 7).take (dataLength message)

theorem contents_take (h : 7 + dataLength f ≤ n) : contents (f.take n) = contents f := by
  rw [contents, contents, dataLength_take (by omega), getD_take (by omega), getD_take (by omega),
    getD_take (by omega), List.drop_take, List.take_take, Nat.min_eq_left (by omega)]

theorem contents_bytes {m : SerialMessage} (h : m.data.length < SERIAL_RX_BUFF_SIZE) :
    contents m.bytes = m := by
  have hlength := dataLength_of_length h
  have htype : uint16OfBytes (m.bytes.getD 5 0) (m.bytes.getD 6 0) = m.messageType :=
    uint16OfBytes_littleEndian m.messageType
  obtain ⟨check, hdrop⟩ : ∃ check, m.bytes.drop 7 = m.data ++ check := ⟨_, rfl⟩
  rw [contents, hlength, htype, hdrop, List.take_left]
  rfl

theorem dataLength_frameBytes (hm : m.length = 265) :
    dataLength (frameBytes c m) = dataLength m := by
  have hthree : 3 ≤ (m.take (7 + dataLength m)).length := by
    rw [List.length_take]
    omega
  rw [frameBytes, dataLength_append hthree, dataLength_take (by omega)]

/-- The fields of a message are those of the frame that it was read from. -/
theorem contents_frameBytes (hm : m.length = 265)
    (hsize : dataLength (frameBytes c m) < SERIAL_RX_BUFF_SIZE) :
    contents (frameBytes c m) = contents m := by
  have hdata := dataLength_frameBytes (c := c) hm
  have hsize' : dataLength (frameBytes c m) < 256 := hsize
  have htake : (frameBytes c m).take (7 + dataLength m) = m.take (7 + dataLength m) := by
    have hlen : (m.take (7 + dataLength m)).length = 7 + dataLength m := by
      rw [List.length_take]
      omega
    exact List.take_left' hlen
  rw [← contents_take (f := frameBytes c m) (n := 7 + dataLength m) (by omega), htake,
    contents_take (Nat.le_refl _)]

/-- Frames, each behind some bytes that are not part of one. -/
def stream (frames : List (List UInt8 × SerialMessage)) : List UInt8 :=
  frames.flatMap fun frame => frame.1 ++ frame.2.bytes

/-- Bytes that are no head bytes are skipped. -/
theorem parses_of_notMem (h : SERIAL_HEAD_BYTE ∉ l) : Parses (verdict c) l [] [] :=
  PrefixDecoder.parses_skip fun b hb => if_pos (by
    rintro heq
    obtain rfl : b = SERIAL_HEAD_BYTE := Option.some.inj heq
    exact h hb)

theorem parses_stream {frames : List (List UInt8 × SerialMessage)}
    (h : ∀ frame ∈ frames, SERIAL_HEAD_BYTE ∉ frame.1 ∧ frame.2.data.length < SERIAL_RX_BUFF_SIZE) :
    Parses (verdict true) (stream frames) (frames.map fun frame => frame.2.bytes) [] := by
  induction frames with
  | nil => exact .rest PrefixDecoder.isOpen_nil
  | cons frame frames ih =>
    obtain ⟨⟨hgap, hsize⟩, hframes⟩ := List.forall_mem_cons.1 h
    have hframe : Parses (verdict true) (frame.2.bytes ++ stream frames)
        (frame.2.bytes :: frames.map fun frame => frame.2.bytes) [] :=
      .accept (isPiece_accept_iff_isFrame.2 (isFrame_bytes hsize)) (ih hframes)
    have hall := (parses_of_notMem hgap).append hframe
    rw [← List.append_assoc] at hall
    exact hall

/-- Frames that the bytes are read as are handed to the callback with what they carry. -/
theorem map_contents_receive (hm : memory.length = 265) {sent : List SerialMessage}
    (hsize : ∀ m ∈ sent, m.data.length < SERIAL_RX_BUFF_SIZE)
    (hparses : Parses (verdict true) calls.flatten (sent.map SerialMessage.bytes) [])
    (hn : calls.flatten.length ≤ n) :
    (receive (init true memory) [] (calls ++ List.replicate n [])).2.2.map contents = sent ∧
      ∀ message ∈ (receive (init true memory) [] (calls ++ List.replicate n [])).2.2,
        message.length = 265 ∧ dataLength (frameBytes true message) < SERIAL_RX_BUFF_SIZE := by
  have hframes : (receive (init true memory) [] (calls ++ List.replicate n [])).2.2.map
      (frameBytes true) = sent.map SerialMessage.bytes :=
    (messages_receive_idle hm hn).trans (congrArg Prod.snd hparses.run_eq)
  obtain ⟨-, -, -, -, hmessages⟩ :=
    receive_spec (inv_init (c := true) hm) [] (calls ++ List.replicate n [])
  generalize (receive (init true memory) [] (calls ++ List.replicate n [])).2.2 = messages
    at hframes hmessages ⊢
  have hdata : ∀ message ∈ messages,
      dataLength (frameBytes true message) < SERIAL_RX_BUFF_SIZE := fun message hmessage => by
    have hmem : frameBytes true message ∈ sent.map SerialMessage.bytes :=
      hframes ▸ List.mem_map_of_mem hmessage
    obtain ⟨m, hsent, heq⟩ := List.mem_map.1 hmem
    rw [← heq, dataLength_of_length (hsize m hsent)]
    exact hsize m hsent
  refine ⟨?_, fun message hmessage => ⟨hmessages message hmessage, hdata message hmessage⟩⟩
  -- a message carries what its frame does, and a frame what was put into it
  have hcontents : messages.map contents = (messages.map (frameBytes true)).map contents := by
    rw [List.map_map]
    exact List.map_congr_left fun message hmessage =>
      (contents_frameBytes (hmessages message hmessage) (hdata message hmessage)).symm
  rw [hcontents, hframes, List.map_map]
  exact (List.map_congr_left fun m hsent => contents_bytes (hsize m hsent)).trans (List.map_id _)

/-- **What is sent is received**: frames with any bytes between them that are no head bytes, cut
into arrivals in any way, are handed to the callback one by one with what they carry. -/
theorem receive_stream (hm : memory.length = 265) (frames : List (List UInt8 × SerialMessage))
    (h : ∀ frame ∈ frames, SERIAL_HEAD_BYTE ∉ frame.1 ∧ frame.2.data.length < SERIAL_RX_BUFF_SIZE)
    (hcalls : calls.flatten = stream frames) (hn : calls.flatten.length ≤ n) :
    (receive (init true memory) [] (calls ++ List.replicate n [])).2.2.map contents =
      frames.map Prod.snd := by
  refine (map_contents_receive hm ?_ ?_ hn).1
  · intro m hsent
    obtain ⟨frame, hframe, rfl⟩ := List.mem_map.1 hsent
    exact (h frame hframe).2
  · rw [hcalls, List.map_map]
    exact parses_stream h

theorem receive_stream_one :
    (receive (init true (List.replicate 265 0)) []
      ([stream [([1, 2], ⟨3, 0x201, [4, 5]⟩)]] ++ List.replicate 13 [])).2.2.map contents =
      [⟨3, 0x201, [4, 5]⟩] :=
  receive_stream List.length_replicate [([1, 2], ⟨3, 0x201, [4, 5]⟩)] (by decide)
    (by simp) (by decide +kernel)

/-- **What is received has been sent**: at every moment of every run, the messages that the callback
has been handed are frames with valid checks that lie in the bytes that have arrived, in order and
apart from each other. -/
theorem receive_sound (hm : memory.length = 265) :
    ∃ (frames : List (List UInt8 × SerialMessage)) (tail : List UInt8),
      calls.flatten = stream frames ++ tail ∧
      (∀ frame ∈ frames, frame.2.data.length < SERIAL_RX_BUFF_SIZE) ∧
      (receive (init true memory) [] calls).2.2.map contents = frames.map Prod.snd := by
  obtain ⟨used, hfifo, hrun, -, hmessages⟩ := receive_spec (inv_init (c := true) hm) [] calls
  generalize (receive (init true memory) [] calls).2.2 = messages at hrun hmessages ⊢
  have hparses := PrefixDecoder.run_eq_iff_parses.1 hrun
  obtain ⟨cuts, tail, hcuts, rfl⟩ := hparses.exists_cuts
  have hframe : ∀ message ∈ messages, IsFrame true (frameBytes true message) :=
    fun message hmessage => isPiece_accept_iff_isFrame.1
      (hparses.isPiece _ (List.mem_map_of_mem hmessage))
  have hcontents : ∀ message ∈ messages, contents (frameBytes true message) = contents message :=
    fun message hmessage => contents_frameBytes (hmessages message hmessage)
      (hframe message hmessage).header.2
  have hbytes : ∀ f, IsFrame true f → (contents f).bytes = f ∧
      (contents f).data.length < SERIAL_RX_BUFF_SIZE := fun f hf => by
    obtain ⟨m, hm, rfl⟩ := exists_bytes_of_isFrame hf
    rw [contents_bytes hm]
    exact ⟨rfl, hm⟩
  have hcut : ∀ cut ∈ cuts, IsFrame true cut.2 := fun cut hcut => by
    have hmem : cut.2 ∈ messages.map (frameBytes true) := hcuts ▸ List.mem_map_of_mem hcut
    obtain ⟨message, hmessage, heq⟩ := List.mem_map.1 hmem
    exact heq ▸ hframe message hmessage
  refine ⟨cuts.map fun cut => (cut.1, contents cut.2),
    tail ++ (receive (init true memory) [] calls).2.1,
    ?_, ?_, ?_⟩
  · have hstream : stream (cuts.map fun cut => (cut.1, contents cut.2)) =
        cuts.flatMap fun cut => cut.1 ++ cut.2 := by
      simp only [stream, List.flatMap_def, List.map_map]
      refine congrArg List.flatten (List.map_congr_left fun cut hmem => ?_)
      simp only [Function.comp_apply, (hbytes _ (hcut cut hmem)).1]
    rw [hstream, ← List.append_assoc, ← hfifo, List.nil_append]
  · intro frame hmem
    obtain ⟨cut, hc, rfl⟩ := List.mem_map.1 hmem
    exact (hbytes _ (hcut cut hc)).2
  · have hsnd : (cuts.map fun cut => (cut.1, contents cut.2)).map Prod.snd =
        (cuts.map Prod.snd).map contents := by
      rw [List.map_map, List.map_map]
      rfl
    rw [hsnd, hcuts, List.map_map]
    exact List.map_congr_left fun message hmessage => (hcontents message hmessage).symm

theorem receive_sound_one :
    ∃ (frames : List (List UInt8 × SerialMessage)) (tail : List UInt8),
      frameCalls.flatten = stream frames ++ tail ∧
      (∀ frame ∈ frames, frame.2.data.length < SERIAL_RX_BUFF_SIZE) ∧
      (receive (init true (List.replicate 265 0)) [] frameCalls).2.2.map contents =
        frames.map Prod.snd :=
  receive_sound List.length_replicate

/-- **An altered frame** is not delivered: if one to three of its bits, or a burst of them, are
altered on the way, and nothing is pending when it comes, the receiver goes on behind its first
byte, behind its header or behind its end, as if it had not been sent so far. -/
theorem receive_altered (hm : memory.length = 265) {f g before rest : List UInt8}
    (hf : IsFrame true f) (hlen : g.length = f.length) (hflips : Detectable (flips f g))
    (hbefore : (PrefixDecoder.run (verdict true) [] before).1 = [])
    (hcalls : calls.flatten = before ++ g ++ rest) (hn : calls.flatten.length ≤ n) :
    ∃ k, (k = 1 ∨ k = 5 ∨ k = f.length) ∧
      (receive (init true memory) [] (calls ++ List.replicate n [])).2.2.map (frameBytes true) =
        (PrefixDecoder.run (verdict true) [] before).2 ++
          (PrefixDecoder.run (verdict true) [] (g.drop k ++ rest)).2 := by
  obtain ⟨k, hk, hreject⟩ := exists_reject_of_detectable hf hlen hflips
  refine ⟨k, hk, ?_⟩
  have hg : g ++ rest = g.take k ++ (g.drop k ++ rest) := by
    rw [← List.append_assoc, List.take_append_drop]
  rw [messages_receive_idle hm hn, hcalls, List.append_assoc, hg, PrefixDecoder.run_append,
    hbefore, PrefixDecoder.run_append, PrefixDecoder.run_piece (p := []) hreject hreject.ne_nil]
  rfl

/-- A frame whose data are altered in one bit, behind another frame and a header whose check is
wrong. -/
theorem receive_altered_one :
    ∃ k, (k = 1 ∨ k = 5 ∨ k = (SerialMessage.bytes ⟨3, 0x201, [4, 5]⟩).length) ∧
      (receive (init true (List.replicate 265 0)) []
        ([stream [([1, 2], ⟨3, 0x201, [4, 5]⟩)] ++ [0xa5, 1, 0, 0, 0],
          (SerialMessage.bytes ⟨3, 0x201, [4, 5]⟩).set 7 6, [7]] ++ List.replicate 30 [])).2.2.map
          (frameBytes true) =
        (PrefixDecoder.run (verdict true) []
            (stream [([1, 2], ⟨3, 0x201, [4, 5]⟩)] ++ [0xa5, 1, 0, 0, 0])).2 ++
          (PrefixDecoder.run (verdict true) []
            (((SerialMessage.bytes ⟨3, 0x201, [4, 5]⟩).set 7 6).drop k ++ [7])).2 :=
  receive_altered List.length_replicate
    (isFrame_iff_exists_bytes.2 ⟨⟨3, 0x201, [4, 5]⟩, by decide, rfl⟩) List.length_set
    (Or.inl (by decide +kernel)) (by decide +kernel) (by simp) (by decide +kernel)

end DJISerial

end Aimbots.Tap
