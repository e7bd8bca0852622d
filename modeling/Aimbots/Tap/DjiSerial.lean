import Aimbots.Library.PrefixDecoder
import Aimbots.Tap.Crc
import Mathlib.Data.List.Induction

/-!
# Frames of the referee system's serial line

`DJISerial::SerialMessage` and `RefSerialTransmitter::configFrameHeader` write frames: a head byte,
the length of the data, a sequence number and their `CRC8`, the message's type, the data, and a
`CRC16` of all of it.  `verdict` is what the bytes read since a head byte are to the receiver.

* `isPiece_accept_iff_isFrame`: what the receiver takes for a frame, and when it decides.
* `isFrame_iff_exists_bytes`: with the checks enforced these are the frames that are written, and
  no others.
-/

namespace Aimbots.Tap.DJISerial

open PrefixDecoder (Verdict IsOpen IsPiece isOpen_concat isOpen_nil)

/-- `SERIAL_HEAD_BYTE`. -/
def SERIAL_HEAD_BYTE : UInt8 := 0xa5

/-- `SERIAL_RX_BUFF_SIZE`. -/
def SERIAL_RX_BUFF_SIZE : ℕ := 256

/-! ### Writing -/

/-- The constructor of `SerialMessage`, and `configFrameHeader` with the sequence number 0. -/
def configFrameHeader (dataLength : UInt16) (seq : UInt8) : List UInt8 :=
  let header := SERIAL_HEAD_BYTE :: (littleEndian dataLength ++ [seq])
  header ++ [calculateCRC8 header CRC8_INIT]

/-- What a frame carries. -/
structure SerialMessage where
  seq : UInt8
  messageType : UInt16
  data : List UInt8
deriving DecidableEq, Repr

/-- The bytes of a frame, after `setCRC16`. -/
def SerialMessage.bytes (m : SerialMessage) : List UInt8 :=
  let message := configFrameHeader (UInt16.ofNat m.data.length) m.seq ++
    littleEndian m.messageType ++ m.data
  message ++ littleEndian (calculateCRC16 message CRC16_INIT)

/-! ### Reading -/

/-- `header.dataLength`, in the bytes of a frame. -/
def dataLength (f : List UInt8) : ℕ := (uint16OfBytes (f.getD 1 0) (f.getD 2 0)).toNat

/-- What the receiver asks of a header. -/
def HeaderChecks (rxCrcEnabled : Bool) (f : List UInt8) : Prop :=
  (rxCrcEnabled = true → calculateCRC8 (f.take 4) CRC8_INIT = f.getD 4 0) ∧
    dataLength f < SERIAL_RX_BUFF_SIZE

/-- How long the frame is that begins with these bytes. -/
def frameLength (rxCrcEnabled : Bool) (f : List UInt8) : ℕ :=
  7 + dataLength f + if rxCrcEnabled then 2 else 0

/-- What the receiver asks of a whole frame. -/
def BodyChecks (rxCrcEnabled : Bool) (f : List UInt8) : Prop :=
  rxCrcEnabled = true → calculateCRC16 (f.take (7 + dataLength f)) CRC16_INIT =
    uint16OfBytes (f.getD (7 + dataLength f) 0) (f.getD (8 + dataLength f) 0)

instance (rxCrcEnabled : Bool) (f : List UInt8) : Decidable (HeaderChecks rxCrcEnabled f) :=
  inferInstanceAs (Decidable (_ ∧ _))

instance (rxCrcEnabled : Bool) (f : List UInt8) : Decidable (BodyChecks rxCrcEnabled f) :=
  inferInstanceAs (Decidable (_ → _))

/-- **What the bytes read so far are**: `more` while a frame that begins with them is possible. -/
def verdict (rxCrcEnabled : Bool) (f : List UInt8) : Verdict :=
  if f.head? ≠ some SERIAL_HEAD_BYTE then .reject
  else if f.length < 5 then .more
  else if f.length = 5 then if HeaderChecks rxCrcEnabled f then .more else .reject
  else if f.length < frameLength rxCrcEnabled f then .more
  else if BodyChecks rxCrcEnabled f then .accept else .reject

/-- A frame that the receiver takes. -/
structure IsFrame (rxCrcEnabled : Bool) (f : List UInt8) : Prop where
  head : f.head? = some SERIAL_HEAD_BYTE
  header : HeaderChecks rxCrcEnabled f
  length : f.length = frameLength rxCrcEnabled f
  body : BodyChecks rxCrcEnabled f

/-- The beginning of a frame. -/
def IsPending (rxCrcEnabled : Bool) (p : List UInt8) : Prop :=
  p = [] ∨ p.head? = some SERIAL_HEAD_BYTE ∧
    (p.length < 5 ∨ HeaderChecks rxCrcEnabled p ∧ p.length < frameLength rxCrcEnabled p)

variable {rxCrcEnabled : Bool} {f p l : List UInt8} {b : UInt8}

theorem dataLength_append (h : 3 ≤ p.length) : dataLength (p ++ l) = dataLength p := by
  rw [dataLength, dataLength, List.getD_append _ _ _ _ (by omega),
    List.getD_append _ _ _ _ (by omega)]

theorem frameLength_append (h : 3 ≤ p.length) :
    frameLength rxCrcEnabled (p ++ l) = frameLength rxCrcEnabled p := by
  rw [frameLength, dataLength_append h, frameLength]

theorem headerChecks_append (h : 5 ≤ p.length) :
    HeaderChecks rxCrcEnabled (p ++ l) ↔ HeaderChecks rxCrcEnabled p := by
  rw [HeaderChecks, dataLength_append (by omega), List.take_append_of_le_length (by omega),
    List.getD_append _ _ _ _ (by omega), HeaderChecks]

theorem seven_le_frameLength : 7 ≤ frameLength rxCrcEnabled f := by
  rw [frameLength, Nat.add_assoc]
  exact Nat.le_add_right _ _

theorem head?_concat (h : p ≠ []) : (p ++ [b]).head? = p.head? := by
  cases p with
  | nil => exact absurd rfl h
  | cons => rfl

theorem verdict_eq_more_iff : verdict rxCrcEnabled f = .more ↔
    f.head? = some SERIAL_HEAD_BYTE ∧ (f.length < 5 ∨ f.length = 5 ∧ HeaderChecks rxCrcEnabled f ∨
      5 < f.length ∧ f.length < frameLength rxCrcEnabled f) := by
  unfold verdict
  by_cases hhead : f.head? = some SERIAL_HEAD_BYTE
  · rw [if_neg (not_not.2 hhead)]
    split_ifs with h₁ h₂ h₃ h₄ h₅
    · simp [hhead, h₁]
    · simp [hhead, h₂, h₃]
    · simp [hhead, h₂, h₃]
    · simp [hhead, h₄]; omega
    all_goals
      refine iff_of_false (by simp) fun h => ?_
      omega
  · rw [if_pos hhead]
    simp [hhead]

/-- **The beginnings of frames** are those of which the receiver asks for more at every byte. -/
theorem isOpen_iff_isPending : IsOpen (verdict rxCrcEnabled) p ↔ IsPending rxCrcEnabled p := by
  induction p using List.reverseRecOn with
  | nil => exact iff_of_true isOpen_nil (Or.inl rfl)
  | append_singleton p b ih =>
    rw [isOpen_concat, ih, verdict_eq_more_iff]
    have hlength : (p ++ [b]).length = p.length + 1 := by simp
    have hseven : 7 ≤ frameLength rxCrcEnabled (p ++ [b]) := seven_le_frameLength
    rw [hlength]
    constructor
    · rintro ⟨hp, hhead, hshort | ⟨hfive, hheader⟩ | ⟨hlong, hlt⟩⟩
      · exact Or.inr ⟨hhead, Or.inl (by omega)⟩
      · exact Or.inr ⟨hhead, Or.inr ⟨hheader, by omega⟩⟩
      · rcases hp with rfl | ⟨-, hp⟩
        · simp at hlong
        · have hchecks : HeaderChecks rxCrcEnabled p := (hp.resolve_left (by omega)).1
          exact Or.inr ⟨hhead, Or.inr ⟨(headerChecks_append (by omega)).2 hchecks, by omega⟩⟩
    · rintro (hnil | ⟨hhead, hp⟩)
      · simp at hnil
      have hinit : p ≠ [] → p.head? = some SERIAL_HEAD_BYTE := fun hne =>
        (head?_concat hne).symm.trans hhead
      by_cases hshort : p.length < 5
      · refine ⟨?_, hhead, ?_⟩
        · by_cases hne : p = []
          · exact Or.inl hne
          · exact Or.inr ⟨hinit hne, Or.inl hshort⟩
        · rcases hp with hp | ⟨hheader, hlt⟩
          · exact Or.inl (by omega)
          · by_cases hfour : p.length = 4
            · exact Or.inr (Or.inl ⟨by omega, hheader⟩)
            · exact Or.inl (by omega)
      · obtain ⟨hheader, hlt⟩ := hp.resolve_left (by omega)
        have hne : p ≠ [] := List.ne_nil_of_length_pos (by omega)
        rw [headerChecks_append (by omega)] at hheader
        rw [frameLength_append (by omega)] at hlt
        refine ⟨Or.inr ⟨hinit hne, Or.inr ⟨hheader, by omega⟩⟩, hhead, ?_⟩
        exact Or.inr (Or.inr ⟨by omega, by rw [frameLength_append (by omega)]; omega⟩)

theorem verdict_eq_accept_iff : verdict rxCrcEnabled f = .accept ↔
    f.head? = some SERIAL_HEAD_BYTE ∧ 5 < f.length ∧ frameLength rxCrcEnabled f ≤ f.length ∧
      BodyChecks rxCrcEnabled f := by
  unfold verdict
  by_cases hhead : f.head? = some SERIAL_HEAD_BYTE
  · rw [if_neg (not_not.2 hhead)]
    split_ifs with h₁ h₂ h₃ h₄ h₅
    · exact iff_of_false (by simp) fun h => by omega
    · exact iff_of_false (by simp) fun h => by omega
    · exact iff_of_false (by simp) fun h => by omega
    · exact iff_of_false (by simp) fun h => by omega
    · exact iff_of_true rfl ⟨hhead, by omega, by omega, h₅⟩
    · exact iff_of_false (by simp) fun h => h₅ h.2.2.2
  · rw [if_pos hhead]
    simp [hhead]

/-- **What the receiver takes for a frame**: it has the length that its header says, and passes the
checks; and the receiver decides so at its last byte. -/
theorem isPiece_accept_iff_isFrame :
    IsPiece (verdict rxCrcEnabled) .accept f ↔ IsFrame rxCrcEnabled f := by
  constructor
  · rintro ⟨-, p, b, rfl, hopen, hverdict⟩
    obtain ⟨hhead, hfive, hle, hbody⟩ := verdict_eq_accept_iff.1 hverdict
    have hlength : (p ++ [b]).length = p.length + 1 := by simp
    rw [isOpen_iff_isPending] at hopen
    obtain ⟨-, hp⟩ := hopen.resolve_left (List.ne_nil_of_length_pos (by omega))
    obtain ⟨hheader, hlt⟩ := hp.resolve_left (by omega)
    refine ⟨hhead, (headerChecks_append (by omega)).2 hheader, ?_, hbody⟩
    rw [frameLength_append (by omega)] at hle ⊢
    omega
  · intro h
    have hseven : 7 ≤ frameLength rxCrcEnabled f := seven_le_frameLength
    have hlength := h.length
    obtain ⟨p, b, rfl⟩ := (List.eq_nil_or_concat' f).resolve_left
      (List.ne_nil_of_length_pos (by omega))
    have hp : (p ++ [b]).length = p.length + 1 := by simp
    refine ⟨by simp, p, b, rfl, ?_, verdict_eq_accept_iff.2 ⟨h.head, by omega, by omega, h.body⟩⟩
    rw [isOpen_iff_isPending]
    have hne : p ≠ [] := List.ne_nil_of_length_pos (by omega)
    refine Or.inr ⟨(head?_concat hne).symm.trans h.head, Or.inr ⟨?_, ?_⟩⟩
    · exact (headerChecks_append (by omega)).1 h.header
    · rw [← frameLength_append (l := [b]) (by omega)]
      omega

/-! ### What is written is what is read -/

theorem dataLength_of_length {m : SerialMessage} (h : m.data.length < SERIAL_RX_BUFF_SIZE) :
    dataLength m.bytes = m.data.length := by
  have hsize : m.data.length < 256 := h
  have hword : dataLength m.bytes = (UInt16.ofNat m.data.length).toNat := by
    rw [← uint16OfBytes_littleEndian (UInt16.ofNat m.data.length)]
    rfl
  rw [hword, UInt16.toNat_ofNat']
  omega

theorem length_bytes (m : SerialMessage) : m.bytes.length = 9 + m.data.length := by
  simp only [SerialMessage.bytes, configFrameHeader, littleEndian, List.length_append,
    List.length_cons, List.length_nil]
  omega

/-- Every frame that is written is one that is read. -/
theorem isFrame_bytes {m : SerialMessage} (h : m.data.length < SERIAL_RX_BUFF_SIZE) :
    IsFrame true m.bytes := by
  have hlength := dataLength_of_length h
  refine ⟨rfl, ⟨fun _ => rfl, ?_⟩, ?_, fun _ => ?_⟩
  · rw [hlength]
    exact h
  · rw [frameLength, hlength, length_bytes, if_pos rfl]
    omega
  · rw [hlength]
    generalize hmessage : configFrameHeader (UInt16.ofNat m.data.length) m.seq ++
      littleEndian m.messageType ++ m.data = message
    have hbytes : m.bytes = message ++ littleEndian (calculateCRC16 message CRC16_INIT) := by
      rw [← hmessage]
      rfl
    have hlen : message.length = 7 + m.data.length := by
      have h := length_bytes m
      rw [hbytes, List.length_append] at h
      simp only [littleEndian, List.length_cons, List.length_nil] at h
      omega
    rw [hbytes, ← hlen, List.take_left, littleEndian,
      List.getD_append_right _ _ _ _ (Nat.le_refl _),
      List.getD_append_right _ _ _ _ (by omega)]
    have hone : 8 + m.data.length - message.length = 1 := by omega
    rw [Nat.sub_self, hone]
    exact (uint16OfBytes_littleEndian _).symm

theorem exists_fields (h : 7 ≤ f.length) :
    ∃ b₀ b₁ b₂ b₃ b₄ b₅ b₆ body, f = b₀ :: b₁ :: b₂ :: b₃ :: b₄ :: b₅ :: b₆ :: body := by
  rcases f with _ | ⟨b₀, _ | ⟨b₁, _ | ⟨b₂, _ | ⟨b₃, _ | ⟨b₄, _ | ⟨b₅, _ | ⟨b₆, body⟩⟩⟩⟩⟩⟩⟩
  case cons.cons.cons.cons.cons.cons.cons => exact ⟨b₀, b₁, b₂, b₃, b₄, b₅, b₆, body, rfl⟩
  all_goals
    simp only [List.length_cons, List.length_nil] at h
    omega

/-- Every frame that is read is one that is written. -/
theorem exists_bytes_of_isFrame (h : IsFrame true f) :
    ∃ m : SerialMessage, m.data.length < SERIAL_RX_BUFF_SIZE ∧ f = m.bytes := by
  obtain ⟨hhead, ⟨hcrc8, hsize⟩, hlength, hcrc16⟩ := h
  have hlen : f.length = 9 + dataLength f := by rw [hlength, frameLength, if_pos rfl]; omega
  obtain ⟨b₀, b₁, b₂, b₃, b₄, b₅, b₆, body, rfl⟩ := exists_fields (by omega : 7 ≤ f.length)
  generalize hfield : dataLength (b₀ :: b₁ :: b₂ :: b₃ :: b₄ :: b₅ :: b₆ :: body) = n at *
  have hbody : body.length = n + 2 := by
    simp only [List.length_cons] at hlen
    omega
  -- the data, and the two bytes of the check behind it
  obtain ⟨data, check, rfl, hdata⟩ : ∃ data check, body = data ++ check ∧ data.length = n :=
    ⟨body.take n, body.drop n, (List.take_append_drop n body).symm, by rw [List.length_take]; omega⟩
  obtain ⟨low, high, rfl⟩ : ∃ low high, check = [low, high] := by
    rw [List.length_append] at hbody
    exact List.length_eq_two.1 (by omega)
  have hcount : littleEndian (UInt16.ofNat n) = [b₁, b₂] := by
    have hword : UInt16.ofNat n = uint16OfBytes b₁ b₂ := by
      rw [← hfield]
      exact UInt16.ofNat_toNat
    rw [hword, littleEndian_uint16OfBytes]
  obtain rfl : b₀ = SERIAL_HEAD_BYTE := Option.some.inj hhead
  have hheader : configFrameHeader (UInt16.ofNat n) b₃ = [SERIAL_HEAD_BYTE, b₁, b₂, b₃, b₄] := by
    simp only [configFrameHeader, hcount, List.cons_append, List.nil_append]
    exact congrArg (fun c => [SERIAL_HEAD_BYTE, b₁, b₂, b₃, c]) (hcrc8 rfl)
  have hcheck := hcrc16 rfl
  refine ⟨⟨b₃, uint16OfBytes b₅ b₆, data⟩, hdata ▸ hsize, ?_⟩
  rw [SerialMessage.bytes]
  simp only [hdata, hheader, littleEndian_uint16OfBytes, List.cons_append, List.nil_append]
  have hmessage : SERIAL_HEAD_BYTE :: b₁ :: b₂ :: b₃ :: b₄ :: b₅ :: b₆ :: (data ++ [low, high]) =
      (SERIAL_HEAD_BYTE :: b₁ :: b₂ :: b₃ :: b₄ :: b₅ :: b₆ :: data) ++ [low, high] := rfl
  rw [hmessage] at hfield hcheck ⊢
  generalize hm : SERIAL_HEAD_BYTE :: b₁ :: b₂ :: b₃ :: b₄ :: b₅ :: b₆ :: data = message
    at hfield hcheck ⊢
  have hlength : message.length = 7 + n := by
    simp only [← hm, List.length_cons, hdata]
    omega
  rw [hfield, ← hlength, List.take_left, List.getD_append_right _ _ _ _ (Nat.le_refl _),
    List.getD_append_right _ _ _ _ (by omega), Nat.sub_self,
    show 8 + n - message.length = 1 by omega] at hcheck
  rw [hcheck, littleEndian_uint16OfBytes, ← hm]
  rfl

/-- **What is written is what is read**: with the checks enforced, the receiver takes the frames
that `SerialMessage` and `configFrameHeader` write, and nothing else. -/
theorem isFrame_iff_exists_bytes : IsFrame true f ↔
    ∃ m : SerialMessage, m.data.length < SERIAL_RX_BUFF_SIZE ∧ f = m.bytes := by
  constructor
  · exact exists_bytes_of_isFrame
  · rintro ⟨m, hm, rfl⟩
    exact isFrame_bytes hm

end Aimbots.Tap.DJISerial
