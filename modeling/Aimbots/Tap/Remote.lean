import Aimbots.Library.BitField
import Aimbots.Library.Run
import Aimbots.Tap.CommandMapper

/-!
# `tap/communication/serial/remote.cpp`: the receiver of the remote

The receiver of the remote sends frames of 18 bytes with silence between them.  `read()` collects
what has arrived in a buffer, parses the buffer when it is full, and drops what it has when the line
is silent for too long.  What `parseBuffer` takes out of a frame is what the remote put into it
(`ofBuffer_encode`).
-/

namespace Aimbots.Tap

open BitField

/-- The number of a position of a switch. -/
def SwitchState.number : SwitchState → ℕ
  | .UNKNOWN => 0
  | .UP => 1
  | .DOWN => 2
  | .MID => 3

/-- The position of a switch with a number, of two bits. -/
def SwitchState.ofNumber : ℕ → SwitchState
  | 0 => .UNKNOWN
  | 1 => .UP
  | 2 => .DOWN
  | _ => .MID

/-- `REMOTE_BUF_LEN`. -/
def REMOTE_BUF_LEN : ℕ := 18

/-- `REMOTE_READ_TIMEOUT`, in milliseconds. -/
def REMOTE_READ_TIMEOUT : UInt32 := 6

/-- `REMOTE_DISCONNECT_TIMEOUT`, in milliseconds. -/
def REMOTE_DISCONNECT_TIMEOUT : UInt32 := 100

/-- `ANALOG_MAX_VALUE`. -/
def ANALOG_MAX_VALUE : ℤ := 660

/-- `Remote::RemoteInfo`. -/
structure RemoteInfo where
  updateCounter : UInt32
  rightHorizontal : ℤ
  rightVertical : ℤ
  leftHorizontal : ℤ
  leftVertical : ℤ
  leftSwitch : SwitchState
  rightSwitch : SwitchState
  mouseX : ℤ
  mouseY : ℤ
  mouseZ : ℤ
  mouseL : Bool
  mouseR : Bool
  key : BitVec 16
  wheel : ℤ
deriving DecidableEq, Repr

namespace RemoteInfo

/-- A number as an `int16_t`. -/
def int16 (n : ℤ) : ℤ := n.bmod 65536

/-- What the command mapper is shown. -/
def keyState (info : RemoteInfo) : KeyState :=
  ⟨info.key, info.leftSwitch, info.rightSwitch, info.mouseL, info.mouseR⟩

/-- A stick or the wheel is out of its range. -/
def invalid (info : RemoteInfo) : Bool :=
  decide (|info.rightHorizontal| > ANALOG_MAX_VALUE) ||
    decide (|info.rightVertical| > ANALOG_MAX_VALUE) ||
    decide (|info.leftHorizontal| > ANALOG_MAX_VALUE) ||
    decide (|info.leftVertical| > ANALOG_MAX_VALUE) || decide (|info.wheel| > ANALOG_MAX_VALUE)

/-- What `reset` leaves. -/
def zero (updateCounter : UInt32) : RemoteInfo :=
  ⟨updateCounter, 0, 0, 0, 0, .UNKNOWN, .UNKNOWN, 0, 0, 0, false, false, 0, 0⟩

/-- What `parseBuffer` takes out of the buffer. -/
def ofBuffer (rxBuffer : List UInt8) (updateCounter : UInt32) : RemoteInfo :=
  let b : ℕ → ℕ := fun i => (rxBuffer.getD i 0).toNat
  { updateCounter := updateCounter + 1
    rightHorizontal := ((b 0 ||| b 1 <<< 8) &&& 0x07FF : ℕ) - 1024
    rightVertical := ((b 1 >>> 3 ||| b 2 <<< 5) &&& 0x07FF : ℕ) - 1024
    leftHorizontal := ((b 2 >>> 6 ||| b 3 <<< 2 ||| b 4 <<< 10) &&& 0x07FF : ℕ) - 1024
    leftVertical := ((b 4 >>> 1 ||| b 5 <<< 7) &&& 0x07FF : ℕ) - 1024
    leftSwitch := .ofNumber ((b 5 >>> 6) &&& 0x03)
    rightSwitch := .ofNumber ((b 5 >>> 4) &&& 0x03)
    mouseX := int16 (b 6 ||| b 7 <<< 8 : ℕ)
    mouseY := int16 (b 8 ||| b 9 <<< 8 : ℕ)
    mouseZ := int16 (b 10 ||| b 11 <<< 8 : ℕ)
    mouseL := decide (b 12 ≠ 0)
    mouseR := decide (b 13 ≠ 0)
    key := BitVec.ofNat 16 (b 14 ||| b 15 <<< 8)
    wheel := int16 ((b 16 ||| b 17 <<< 8 : ℕ) - 1024) }

end RemoteInfo

/-- A `Remote`, the bytes that wait in its UART, what it has shown to the command mapper, in order,
and the errors it has raised. -/
structure Remote where
  remote : RemoteInfo
  connected : Bool
  rxBuffer : List UInt8
  lastRead : UInt32
  currentBufferIndex : ℕ
  uart : List UInt8
  keyStates : List KeyState
  errors : List String
deriving DecidableEq, Repr

/-- One call of `read()`: the time at which it checks the connection, what arrives from then on
until it has read what there is, the time at which it reads the last byte, what arrives from then
on, and the time at which it checks for silence. -/
structure Reading where
  start : UInt32
  arrived : List UInt8
  loop : UInt32
  late : List UInt8
  finish : UInt32
deriving DecidableEq, Repr

/-- What happens to the remote. -/
inductive RemoteEvent where
  | receive (bytes : List UInt8)
  | read (reading : Reading)
deriving DecidableEq, Repr

namespace Remote

/-- A remote that has received nothing. -/
def start : Remote :=
  ⟨.zero 0, false, List.replicate REMOTE_BUF_LEN 0, 0, 0, [], [], []⟩

section Operations

variable (r : Remote)

/-- Some bytes arrive. -/
def receive (bytes : List UInt8) : Remote := { r with uart := r.uart ++ bytes }

/-- `clearRxBuffer`. -/
def clearRxBuffer : Remote :=
  { r with
    currentBufferIndex := 0
    rxBuffer := List.replicate REMOTE_BUF_LEN 0
    uart := [] }

/-- `reset`. -/
def reset : Remote :=
  let r := { r with remote := .zero r.remote.updateCounter }
  let r := r.clearRxBuffer
  { r with keyStates := r.keyStates ++ [⟨0, .UNKNOWN, .UNKNOWN, false, false⟩] }

/-- `parseBuffer`. -/
def parseBuffer : Remote :=
  let info := RemoteInfo.ofBuffer r.rxBuffer r.remote.updateCounter
  { r with
    remote := info
    errors := if info.invalid then r.errors ++ ["invalid remote joystick values"] else r.errors
    keyStates := r.keyStates ++ [info.keyState] }

/-- A byte is read into the buffer. -/
def push (now : UInt32) (data : UInt8) : Remote :=
  { r with
    rxBuffer := r.rxBuffer.set r.currentBufferIndex data
    currentBufferIndex := r.currentBufferIndex + 1
    lastRead := now }

/-- The loop over the bytes in the UART: the byte that is read when the buffer is full is
dropped. -/
def readLoop (now : UInt32) : List UInt8 → Remote → Remote
  | [], r => { r with uart := [] }
  | data :: rest, r =>
    if r.currentBufferIndex < REMOTE_BUF_LEN then readLoop now rest (r.push now data)
    else { r with uart := rest }

/-- The check of the connection. -/
def checkDisconnect (now : UInt32) : Remote :=
  if now - r.lastRead > REMOTE_DISCONNECT_TIMEOUT then { r with connected := false }.reset else r

/-- What is in the UART is read, with what arrives meanwhile. -/
def collect (now : UInt32) (arrived : List UInt8) : Remote :=
  readLoop now (r.uart ++ arrived) r

/-- The check for silence. -/
def checkSilence (now : UInt32) : Remote :=
  if now - r.lastRead > REMOTE_READ_TIMEOUT then r.clearRxBuffer else r

/-- A buffer that is full is parsed. -/
def parseFull : Remote :=
  if r.currentBufferIndex ≥ REMOTE_BUF_LEN then
    ({ r with connected := true }.parseBuffer).clearRxBuffer
  else r

/-- `read`. -/
def read (reading : Reading) : Remote :=
  ((((r.checkDisconnect reading.start).collect reading.loop reading.arrived).receive
    reading.late).checkSilence reading.finish).parseFull

/-- One event. -/
def step : RemoteEvent → Remote
  | .receive bytes => r.receive bytes
  | .read reading => r.read reading

end Operations

end Remote

/-! ### What the remote sends -/

/-- What the remote sends: the sticks and the wheel with 1024 in the middle. -/
structure RemoteFrame where
  rightHorizontal : BitVec 11
  rightVertical : BitVec 11
  leftHorizontal : BitVec 11
  leftVertical : BitVec 11
  rightSwitch : SwitchState
  leftSwitch : SwitchState
  mouseX : BitVec 16
  mouseY : BitVec 16
  mouseZ : BitVec 16
  mouseL : Bool
  mouseR : Bool
  key : BitVec 16
  wheel : BitVec 16
deriving DecidableEq, Repr

namespace RemoteFrame

variable (f : RemoteFrame)

/-- The fields of a frame, each a width and a value, from the lowest bits on. -/
def fields : List (ℕ × ℕ) :=
  [(11, f.rightHorizontal.toNat), (11, f.rightVertical.toNat), (11, f.leftHorizontal.toNat),
    (11, f.leftVertical.toNat), (2, f.rightSwitch.number), (2, f.leftSwitch.number),
    (16, f.mouseX.toNat), (16, f.mouseY.toNat), (16, f.mouseZ.toNat), (8, f.mouseL.toNat),
    (8, f.mouseR.toNat), (16, f.key.toNat), (16, f.wheel.toNat)]

/-- The bytes of a frame. -/
def encode : List UInt8 := bytes REMOTE_BUF_LEN (pack f.fields)

/-- What the frame says. -/
def info (updateCounter : UInt32) : RemoteInfo :=
  { updateCounter := updateCounter
    rightHorizontal := f.rightHorizontal.toNat - 1024
    rightVertical := f.rightVertical.toNat - 1024
    leftHorizontal := f.leftHorizontal.toNat - 1024
    leftVertical := f.leftVertical.toNat - 1024
    leftSwitch := f.leftSwitch
    rightSwitch := f.rightSwitch
    mouseX := f.mouseX.toInt
    mouseY := f.mouseY.toInt
    mouseZ := f.mouseZ.toInt
    mouseL := f.mouseL
    mouseR := f.mouseR
    key := f.key
    wheel := (f.wheel - 1024).toInt }

theorem switch_number_lt (s : SwitchState) : s.number < 2 ^ 2 := by cases s <;> decide

theorem toNat_lt_byte (b : Bool) : b.toNat < 2 ^ 8 := by cases b <;> decide

theorem fits_fields : Fits f.fields := by
  intro g hg
  simp only [fields, List.mem_cons, List.not_mem_nil, or_false] at hg
  rcases hg with rfl | rfl | rfl | rfl | rfl | rfl | rfl | rfl | rfl | rfl | rfl | rfl | rfl
  all_goals first
    | exact BitVec.isLt _
    | exact switch_number_lt _
    | exact toNat_lt_byte _

theorem ofNumber_number (s : SwitchState) : SwitchState.ofNumber s.number = s := by cases s <;> rfl

theorem int16_toNat (x : BitVec 16) : RemoteInfo.int16 x.toNat = x.toInt :=
  (BitVec.toInt_eq_toNat_bmod x).symm

theorem int16_sub (x : BitVec 16) : RemoteInfo.int16 (x.toNat - 1024) = (x - 1024).toInt := by
  rw [BitVec.toInt_sub, BitVec.toInt_eq_toNat_bmod x]
  exact Int.bmod_sub_bmod.symm

/-- **What the remote sends** is what `parseBuffer` takes out of it. -/
theorem ofBuffer_encode (updateCounter : UInt32) :
    RemoteInfo.ofBuffer f.encode updateCounter = f.info (updateCounter + 1) := by
  have hbyte : ∀ i, i < 18 →
      (f.encode.getD i 0).toNat = field (pack f.fields) (8 * i) 8 := fun i hi => getD_bytes hi
  have hfield : ∀ i width value, f.fields[i]? = some (width, value) →
      field (pack f.fields) (totalWidth (f.fields.take i)) width = value :=
    fun i _ _ hi => field_pack_of_getElem? f.fits_fields i hi
  generalize pack f.fields = n at hbyte hfield
  have hsticks : ((f.encode.getD 0 0).toNat ||| (f.encode.getD 1 0).toNat <<< 8) &&& 0x07FF =
      f.rightHorizontal.toNat := by
    rw [hbyte 0 (by decide), hbyte 1 (by decide)]
    exact (join_two n 0 11 0 (by decide) (by decide)).trans (hfield 0 _ _ rfl)
  have hright : ((f.encode.getD 1 0).toNat >>> 3 ||| (f.encode.getD 2 0).toNat <<< 5) &&& 0x07FF =
      f.rightVertical.toNat := by
    rw [hbyte 1 (by decide), hbyte 2 (by decide)]
    exact (join_two n 8 11 3 (by decide) (by decide)).trans (hfield 1 _ _ rfl)
  have hleft : ((f.encode.getD 2 0).toNat >>> 6 ||| (f.encode.getD 3 0).toNat <<< 2 |||
      (f.encode.getD 4 0).toNat <<< 10) &&& 0x07FF = f.leftHorizontal.toNat := by
    rw [hbyte 2 (by decide), hbyte 3 (by decide), hbyte 4 (by decide)]
    exact (join_three n 16 11 6 (by decide) (by decide)).trans (hfield 2 _ _ rfl)
  have hleftVertical : ((f.encode.getD 4 0).toNat >>> 1 ||| (f.encode.getD 5 0).toNat <<< 7) &&&
      0x07FF = f.leftVertical.toNat := by
    rw [hbyte 4 (by decide), hbyte 5 (by decide)]
    exact (join_two n 32 11 1 (by decide) (by decide)).trans (hfield 3 _ _ rfl)
  have hrightSwitch : (f.encode.getD 5 0).toNat >>> 4 &&& 0x03 = f.rightSwitch.number := by
    rw [hbyte 5 (by decide)]
    exact (join_one n 40 2 4 (by decide)).trans (hfield 4 _ _ rfl)
  have hleftSwitch : (f.encode.getD 5 0).toNat >>> 6 &&& 0x03 = f.leftSwitch.number := by
    rw [hbyte 5 (by decide)]
    exact (join_one n 40 2 6 (by decide)).trans (hfield 5 _ _ rfl)
  have hword : ∀ i index value, i + 1 < 18 → f.fields[index]? = some (16, value) →
      totalWidth (f.fields.take index) = 8 * i →
      (f.encode.getD i 0).toNat ||| (f.encode.getD (i + 1) 0).toNat <<< 8 = value := by
    intro i index value hi hindex hoffset
    rw [hbyte i (by omega), hbyte (i + 1) hi, ← hfield index 16 value hindex, hoffset]
    exact join_bytes n (8 * i)
  have hbutton : ∀ i index button, i < 18 → f.fields[index]? = some (8, Bool.toNat button) →
      totalWidth (f.fields.take index) = 8 * i →
      decide ((f.encode.getD i 0).toNat ≠ 0) = button := by
    intro i index button hi hindex hoffset
    rw [hbyte i hi, ← hoffset, hfield index 8 _ hindex]
    cases button <;> rfl
  unfold RemoteInfo.ofBuffer info
  dsimp only
  rw [hsticks, hright, hleft, hleftVertical, hrightSwitch, hleftSwitch,
    hword 6 6 _ (by decide) rfl rfl, hword 8 7 _ (by decide) rfl rfl,
    hword 10 8 _ (by decide) rfl rfl, hbutton 12 9 _ (by decide) rfl rfl,
    hbutton 13 10 _ (by decide) rfl rfl, hword 14 11 _ (by decide) rfl rfl,
    hword 16 12 _ (by decide) rfl rfl, ofNumber_number, ofNumber_number, BitVec.ofNat_toNat,
    BitVec.setWidth_eq, ← int16_toNat, ← int16_toNat, ← int16_toNat, ← int16_sub]

theorem info_injective {f g : RemoteFrame} {updateCounter : UInt32}
    (h : f.info updateCounter = g.info updateCounter) : f = g := by
  obtain ⟨f1, f2, f3, f4, f5, f6, f7, f8, f9, f10, f11, f12, f13⟩ := f
  obtain ⟨g1, g2, g3, g4, g5, g6, g7, g8, g9, g10, g11, g12, g13⟩ := g
  simp only [info, RemoteInfo.mk.injEq, true_and, BitVec.toInt_inj] at h
  obtain ⟨h1, h2, h3, h4, rfl, rfl, rfl, rfl, rfl, rfl, rfl, rfl, h13⟩ := h
  have hstick : ∀ {x y : BitVec 11}, (x.toNat : ℤ) - 1024 = y.toNat - 1024 → x = y := fun hxy =>
    BitVec.eq_of_toNat_eq (by omega)
  have hwheel : f13 = g13 := by
    rw [← BitVec.sub_add_cancel f13 1024, h13, BitVec.sub_add_cancel]
  rw [hstick h1, hstick h2, hstick h3, hstick h4, hwheel]

/-- The frame that some bytes spell. -/
def ofBytes (l : List UInt8) : RemoteFrame :=
  { rightHorizontal := BitVec.ofNat 11 (field (number l) 0 11)
    rightVertical := BitVec.ofNat 11 (field (number l) 11 11)
    leftHorizontal := BitVec.ofNat 11 (field (number l) 22 11)
    leftVertical := BitVec.ofNat 11 (field (number l) 33 11)
    rightSwitch := .ofNumber (field (number l) 44 2)
    leftSwitch := .ofNumber (field (number l) 46 2)
    mouseX := BitVec.ofNat 16 (field (number l) 48 16)
    mouseY := BitVec.ofNat 16 (field (number l) 64 16)
    mouseZ := BitVec.ofNat 16 (field (number l) 80 16)
    mouseL := decide (field (number l) 96 8 ≠ 0)
    mouseR := decide (field (number l) 104 8 ≠ 0)
    key := BitVec.ofNat 16 (field (number l) 112 16)
    wheel := BitVec.ofNat 16 (field (number l) 128 16) }

theorem number_ofNumber {n : ℕ} (h : n < 2 ^ 2) : (SwitchState.ofNumber n).number = n := by
  have hcases : n = 0 ∨ n = 1 ∨ n = 2 ∨ n = 3 := by omega
  rcases hcases with rfl | rfl | rfl | rfl <;> rfl

theorem toNat_decide {n : ℕ} (h : n ≤ 1) : (decide (n ≠ 0)).toNat = n := by
  have hcases : n = 0 ∨ n = 1 := by omega
  rcases hcases with rfl | rfl <;> rfl

theorem encode_ofBytes {l : List UInt8} (hlength : l.length = REMOTE_BUF_LEN)
    (hleft : l.getD 12 0 ≤ 1) (hright : l.getD 13 0 ≤ 1) : (ofBytes l).encode = l := by
  have hbutton : ∀ i, i < 18 → l.getD i 0 ≤ 1 → field (number l) (8 * i) 8 ≤ 1 := by
    intro i hi hle
    have hget : l[i]? = some (l.getD i 0) := by
      rw [List.getD_eq_getElem?_getD, List.getElem?_eq_getElem (hlength ▸ hi), Option.getD_some]
    rw [field_number l hget]
    exact UInt8.le_iff_toNat_le.1 hle
  have hfields : (ofBytes l).fields =
      split (number l) [11, 11, 11, 11, 2, 2, 16, 16, 16, 8, 8, 16, 16] 0 := by
    have hbits : ∀ width offset, (BitVec.ofNat width (field (number l) offset width)).toNat =
        field (number l) offset width := fun width offset =>
      (BitVec.toNat_ofNat _ _).trans (Nat.mod_eq_of_lt field_lt)
    simp only [fields, ofBytes, split, Nat.reduceAdd, hbits, number_ofNumber field_lt,
      toNat_decide (hbutton 12 (by decide) hleft), toNat_decide (hbutton 13 (by decide) hright)]
  have hpack : pack (ofBytes l).fields = number l := by
    have hlt := BitField.number_lt l
    rw [hlength] at hlt
    rw [hfields, pack_split, field, Nat.pow_zero, Nat.div_one]
    exact Nat.mod_eq_of_lt hlt
  rw [encode, hpack, ← hlength, bytes_number]

/-- **Frames and their bytes**: what is parsed is what was sent, and each 18 bytes whose buttons are
up or down are what one frame, and no other, is sent as. -/
theorem parsed_encode :
    (∀ (f : RemoteFrame) (updateCounter : UInt32),
      RemoteInfo.ofBuffer f.encode updateCounter = f.info (updateCounter + 1)) ∧
      ∀ l : List UInt8, l.length = REMOTE_BUF_LEN → l.getD 12 0 ≤ 1 → l.getD 13 0 ≤ 1 →
        ∃! f : RemoteFrame, f.encode = l := by
  refine ⟨ofBuffer_encode, fun l hlength hleft hright =>
    ⟨ofBytes l, encode_ofBytes hlength hleft hright, fun g hg => ?_⟩⟩
  have hsame : g.encode = (ofBytes l).encode := hg.trans (encode_ofBytes hlength hleft hright).symm
  have hinfo : g.info (0 + 1) = (ofBytes l).info (0 + 1) := by
    rw [← ofBuffer_encode, ← ofBuffer_encode, hsame]
  exact info_injective hinfo

end RemoteFrame

end Aimbots.Tap
