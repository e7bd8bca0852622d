import Aimbots.Library.Run
import Aimbots.Tap.Can
import Aimbots.Tap.Crc
import Aimbots.Tap.Timeout
import Mathlib.Algebra.Order.Group.Int
import Mathlib.Tactic.Linarith

/-!
# `tap/motor/dji_motor.cpp`: what a motor reports

A motor reports where its shaft is within a revolution, in `ENC_RESOLUTION` steps.  `processMessage`
counts the revolutions from one message to the next, and `resetEncoderValue` makes the position of
the last message the origin.  `getEncoderUnwrapped_run`: as long as the shaft moves by less than
half a revolution between two messages, the count is the way from the origin, over any messages,
resets and messages of other motors.
-/

namespace Aimbots.Tap

open Run (after Each)

/-- `ENC_RESOLUTION`. -/
def ENC_RESOLUTION : UInt16 := 8192

/-- `MOTOR_DISCONNECT_TIME`. -/
def MOTOR_DISCONNECT_TIME : UInt32 := 100

/-- The data members of `DjiMotor` that its messages set; the count of the revolutions is an
`int64_t`. -/
structure DjiMotorRx where
  motorIdentifier : UInt32
  motorInverted : Bool
  shaftRPM : Int16
  temperature : Int8
  torque : Int16
  encoderWrapped : UInt16
  encoderRevolutions : ℤ
  encoderHomePosition : UInt16
  motorDisconnectTimeout : Timeout
deriving DecidableEq, Repr

namespace DjiMotorRx

/-- The constructor, with its default position. -/
def construct (motorIdentifier : UInt32) (isInverted : Bool) : DjiMotorRx where
  motorIdentifier
  motorInverted := isInverted
  shaftRPM := 0
  temperature := 0
  torque := 0
  encoderWrapped := ENC_RESOLUTION / 2
  encoderRevolutions := 0
  encoderHomePosition := 0
  motorDisconnectTimeout := .stopped

/-- `updateEncoderValue`. -/
def updateEncoderValue (m : DjiMotorRx) (newEncWrapped : UInt16) : DjiMotorRx :=
  let enc_dif := Int16.ofInt (newEncWrapped.toNat - m.encoderWrapped.toNat)
  { m with
    encoderRevolutions :=
      if enc_dif.toInt < -(ENC_RESOLUTION.toNat : ℤ) / 2 then m.encoderRevolutions + 1
      else if (ENC_RESOLUTION.toNat : ℤ) / 2 < enc_dif.toInt then m.encoderRevolutions - 1
      else m.encoderRevolutions
    encoderWrapped := newEncWrapped }

/-- `processMessage`. -/
def processMessage (m : DjiMotorRx) (now : UInt32) (message : CanMessage) : DjiMotorRx :=
  if message.identifier ≠ m.motorIdentifier then m
  else
    let encoderActual := uint16OfBytes (message.data.getD 1 0) (message.data.getD 0 0)
    let shaftRPM := int16OfBytes (message.data.getD 3 0) (message.data.getD 2 0)
    let torque := int16OfBytes (message.data.getD 5 0) (message.data.getD 4 0)
    let m := { m with
      shaftRPM := if m.motorInverted then -shaftRPM else shaftRPM
      torque := if m.motorInverted then -torque else torque
      temperature := (message.data.getD 6 0).toInt8
      motorDisconnectTimeout := m.motorDisconnectTimeout.restart now MOTOR_DISCONNECT_TIME }
    let encoderActual := if m.motorInverted then ENC_RESOLUTION - 1 - encoderActual
      else encoderActual
    let encoderRelativeToHome : ℤ := encoderActual.toNat - m.encoderHomePosition.toNat
    m.updateEncoderValue (UInt16.ofInt (if encoderRelativeToHome < 0 then
      ENC_RESOLUTION.toNat + encoderRelativeToHome else encoderRelativeToHome))

/-- `getEncoderUnwrapped`. -/
def getEncoderUnwrapped (m : DjiMotorRx) : ℤ :=
  m.encoderWrapped.toNat + ENC_RESOLUTION.toNat * m.encoderRevolutions

/-- `getEncoderWrapped`. -/
def getEncoderWrapped (m : DjiMotorRx) : UInt16 := m.encoderWrapped

/-- `resetEncoderValue`. -/
def resetEncoderValue (m : DjiMotorRx) : DjiMotorRx :=
  { m with
    encoderRevolutions := 0
    encoderHomePosition :=
      UInt16.ofNat ((m.encoderWrapped.toNat + m.encoderHomePosition.toNat) % ENC_RESOLUTION.toNat)
    encoderWrapped := 0 }

/-- `isMotorOnline`. -/
def isMotorOnline (m : DjiMotorRx) (now : UInt32) : Bool :=
  !m.motorDisconnectTimeout.isExpired now && !m.motorDisconnectTimeout.isStopped

/-! ### The shaft -/

/-- The message reports the position of the shaft, in steps, within its revolution. -/
def Reports (message : CanMessage) (position : ℤ) : Prop :=
  ((uint16OfBytes (message.data.getD 1 0) (message.data.getD 0 0)).toNat : ℤ) = position % 8192

instance (message : CanMessage) (position : ℤ) : Decidable (Reports message position) :=
  inferInstanceAs (Decidable (_ = _))

/-- The position in the direction that the program counts in. -/
def oriented (isInverted : Bool) (position : ℤ) : ℤ :=
  if isInverted then -1 - position else position

/-- The motor has seen the shaft at `position`, and counts from `origin`. -/
structure Tracks (m : DjiMotorRx) (origin position : ℤ) : Prop where
  home : (m.encoderHomePosition.toNat : ℤ) = origin % 8192
  wrapped : (m.encoderWrapped.toNat : ℤ) = (position - origin) % 8192
  revolutions : m.encoderRevolutions = (position - origin) / 8192

variable {m : DjiMotorRx} {origin position shaft : ℤ} {message : CanMessage} {now : UInt32}

theorem Tracks.getEncoderUnwrapped_eq (h : m.Tracks origin position) :
    m.getEncoderUnwrapped = position - origin := by
  have hresolution : (ENC_RESOLUTION.toNat : ℤ) = 8192 := rfl
  rw [getEncoderUnwrapped, hresolution, h.wrapped, h.revolutions]
  omega

theorem toNat_ofInt_of_lt {x : ℤ} (hlow : 0 ≤ x) (hhigh : x < 8192) :
    ((UInt16.ofInt x).toNat : ℤ) = x := by
  rw [UInt16.ofInt, UInt16.toNat_ofNat']
  omega

/-- The count after a message, if it says the revolution that the shaft is in. -/
theorem tracks_updateEncoderValue {new : ℤ}
    (hhome : (m.encoderHomePosition.toNat : ℤ) = origin % 8192)
    (hwrapped : (m.encoderWrapped.toNat : ℤ) < 8192)
    (hrevolutions : (if (new - origin) % 8192 - m.encoderWrapped.toNat < -4096 then
        m.encoderRevolutions + 1
      else if 4096 < (new - origin) % 8192 - m.encoderWrapped.toNat then m.encoderRevolutions - 1
      else m.encoderRevolutions) = (new - origin) / 8192) :
    (m.updateEncoderValue (UInt16.ofInt ((new - origin) % 8192))).Tracks origin new := by
  have hnew := toNat_ofInt_of_lt (Int.emod_nonneg (new - origin) (by decide : (8192 : ℤ) ≠ 0))
    (Int.emod_lt_of_pos (new - origin) (by decide))
  refine ⟨hhome, hnew, ?_⟩
  have hdif : (Int16.ofInt ((UInt16.ofInt ((new - origin) % 8192)).toNat -
      m.encoderWrapped.toNat)).toInt = (new - origin) % 8192 - m.encoderWrapped.toNat := by
    rw [hnew]
    exact Int16.toInt_ofInt_of_le (by omega) (by omega)
  have hhalf : (ENC_RESOLUTION.toNat : ℤ) / 2 = 4096 := rfl
  have hnegative : -(ENC_RESOLUTION.toNat : ℤ) / 2 = -4096 := rfl
  rw [← hrevolutions, updateEncoderValue]
  dsimp only
  rw [hdif, hhalf, hnegative]

/-- **One message**: the count follows a shaft that moves by less than half a revolution. -/
theorem Tracks.updateEncoderValue {new : ℤ} (h : m.Tracks origin position)
    (hmove : |new - position| < 4096) :
    (m.updateEncoderValue (UInt16.ofInt ((new - origin) % 8192))).Tracks origin new := by
  obtain ⟨hhome, hwrapped, hrevolutions⟩ := h
  obtain ⟨hback, hforward⟩ := abs_lt.1 hmove
  refine tracks_updateEncoderValue hhome (by omega) ?_
  rw [hwrapped, hrevolutions]
  -- the count changes exactly if the position passes the end of the revolution
  split_ifs <;> omega

/-- The steps within the revolution, from the origin, as `processMessage` finds them. -/
theorem relative_eq {value : UInt16} {new : ℤ}
    (hhome : (m.encoderHomePosition.toNat : ℤ) = origin % 8192)
    (hvalue : (value.toNat : ℤ) = new % 8192) :
    (if ((value.toNat : ℤ) - m.encoderHomePosition.toNat) < 0 then
        (ENC_RESOLUTION.toNat : ℤ) + (value.toNat - m.encoderHomePosition.toNat)
      else value.toNat - m.encoderHomePosition.toNat) = (new - origin) % 8192 := by
  have hresolution : (ENC_RESOLUTION.toNat : ℤ) = 8192 := rfl
  rw [hhome, hvalue, hresolution]
  split_ifs <;> omega

/-- An inverted motor counts the other way. -/
theorem toNat_oriented (isInverted : Bool) {value : UInt16} (h : (value.toNat : ℤ) = shaft % 8192) :
    ((if isInverted then ENC_RESOLUTION - 1 - value else value).toNat : ℤ) =
      oriented isInverted shaft % 8192 := by
  cases isInverted
  · exact h
  · have hvalue : value.toNat ≤ 8191 := by omega
    have hsub : (ENC_RESOLUTION - 1 - value).toNat = 8191 - value.toNat := by
      rw [UInt16.toNat_sub_of_le _ _ (UInt16.le_iff_toNat_le.2 hvalue)]
      rfl
    rw [if_pos rfl, hsub, oriented, if_pos rfl]
    omega

/-- The motor with what a message says of its speed, its torque and its temperature. -/
def heard (m : DjiMotorRx) (now : UInt32) (message : CanMessage) : DjiMotorRx :=
  let shaftRPM := int16OfBytes (message.data.getD 3 0) (message.data.getD 2 0)
  let torque := int16OfBytes (message.data.getD 5 0) (message.data.getD 4 0)
  { m with
    shaftRPM := if m.motorInverted then -shaftRPM else shaftRPM
    torque := if m.motorInverted then -torque else torque
    temperature := (message.data.getD 6 0).toInt8
    motorDisconnectTimeout := m.motorDisconnectTimeout.restart now MOTOR_DISCONNECT_TIME }

/-- A message of the motor gives the steps from the origin. -/
theorem processMessage_eq (hhome : (m.encoderHomePosition.toNat : ℤ) = origin % 8192)
    (hown : message.identifier = m.motorIdentifier) (hreports : Reports message shaft) :
    m.processMessage now message = (m.heard now message).updateEncoderValue
      (UInt16.ofInt ((oriented m.motorInverted shaft - origin) % 8192)) := by
  have hrelative := relative_eq hhome (toNat_oriented m.motorInverted hreports)
  rw [processMessage, if_neg (not_not.2 hown)]
  dsimp only
  rw [hrelative]
  rfl

/-- **A message of the motor** that reports the shaft less than half a revolution from where it
was. -/
theorem Tracks.processMessage (h : m.Tracks origin position)
    (hown : message.identifier = m.motorIdentifier) (hreports : Reports message shaft)
    (hmove : |oriented m.motorInverted shaft - position| < 4096) :
    (m.processMessage now message).Tracks origin (oriented m.motorInverted shaft) := by
  have hheard : (m.heard now message).Tracks origin position :=
    ⟨h.home, h.wrapped, h.revolutions⟩
  rw [processMessage_eq h.home hown hreports]
  exact hheard.updateEncoderValue hmove

/-- **A reset**: the count begins where the shaft was. -/
theorem Tracks.resetEncoderValue (h : m.Tracks origin position) :
    m.resetEncoderValue.Tracks position position := by
  have hhome : ((UInt16.ofNat ((m.encoderWrapped.toNat + m.encoderHomePosition.toNat) %
      ENC_RESOLUTION.toNat)).toNat : ℤ) = position % 8192 := by
    have hresolution : ENC_RESOLUTION.toNat = 8192 := rfl
    have hwrapped := h.wrapped
    have hhome := h.home
    rw [hresolution, UInt16.toNat_ofNat']
    omega
  refine ⟨hhome, ?_, ?_⟩
  · rw [Int.sub_self]
    rfl
  · rw [Int.sub_self]
    rfl

end DjiMotorRx

/-! ### A motor and its shaft -/

/-- What happens to a motor: a message of the bus, which the shaft was at `shaft` for, or a
reset. -/
inductive EncoderEvent where
  | message (now : UInt32) (message : CanMessage) (shaft : ℤ)
  | reset

/-- A motor, where its last message saw the shaft, and where its count began. -/
structure EncoderLine where
  motor : DjiMotorRx
  origin : ℤ
  last : Option ℤ
deriving DecidableEq

namespace EncoderLine

open DjiMotorRx (oriented Reports heard processMessage_eq tracks_updateEncoderValue)

/-- Where a count begins that the first message finds at `position`: at the beginning of the
revolution, or half a revolution on if there has been a reset. -/
def firstOrigin (origin position : ℤ) : ℤ :=
  if origin = 0 then 8192 * (position / 8192) else 8192 * ((position - 1) / 8192) + 4096

/-- One event. -/
def step (line : EncoderLine) : EncoderEvent → EncoderLine
  | .message now message shaft =>
    if message.identifier = line.motor.motorIdentifier then
      let position := oriented line.motor.motorInverted shaft
      { motor := line.motor.processMessage now message
        origin := if line.last.isSome then line.origin else firstOrigin line.origin position
        last := some position }
    else { line with motor := line.motor.processMessage now message }
  | .reset =>
    { line with motor := line.motor.resetEncoderValue, origin := line.last.getD 4096 }

/-- A message of the motor says where the shaft is, and the shaft has moved by less than half a
revolution since the last. -/
def Slow (line : EncoderLine) : EncoderEvent → Prop
  | .message _ message shaft => message.identifier = line.motor.motorIdentifier →
    Reports message shaft ∧
      ∀ position ∈ line.last, |oriented line.motor.motorInverted shaft - position| < 4096
  | .reset => True

instance (line : EncoderLine) : ∀ event, Decidable (line.Slow event)
  | .message _ message shaft => inferInstanceAs (Decidable (_ → Reports message shaft ∧ _))
  | .reset => isTrue trivial

/-- A motor that has been constructed. -/
def construct (motorIdentifier : UInt32) (isInverted : Bool) : EncoderLine :=
  ⟨.construct motorIdentifier isInverted, 0, none⟩

/-- The count of a motor that has had no message. -/
def Unheard (m : DjiMotorRx) (origin : ℤ) : Prop :=
  m.encoderRevolutions = 0 ∧ (origin = 0 ∧ m.encoderHomePosition = 0 ∧ m.encoderWrapped = 4096 ∨
    origin = 4096 ∧ m.encoderHomePosition = 4096 ∧ m.encoderWrapped = 0)

/-- **The first message**. -/
theorem Unheard.processMessage {m : DjiMotorRx} {origin shaft : ℤ} {now : UInt32}
    {message : CanMessage} (h : Unheard m origin) (hown : message.identifier = m.motorIdentifier)
    (hreports : Reports message shaft) :
    (m.processMessage now message).Tracks
      (firstOrigin origin (oriented m.motorInverted shaft)) (oriented m.motorInverted shaft) := by
  obtain ⟨hrevolutions, ⟨rfl, hhome, hwrapped⟩ | ⟨rfl, hhome, hwrapped⟩⟩ := h
  · have hstart : (m.encoderHomePosition.toNat : ℤ) =
        firstOrigin 0 (oriented m.motorInverted shaft) % 8192 := by
      rw [hhome, firstOrigin, if_pos rfl, Int.mul_emod_right]
      rfl
    have hhalf : ((m.heard now message).encoderWrapped.toNat : ℤ) = 4096 :=
      congrArg (fun value : UInt16 => (value.toNat : ℤ)) hwrapped
    rw [processMessage_eq hstart hown hreports]
    refine tracks_updateEncoderValue hstart (by omega) ?_
    rw [hhalf, heard, hrevolutions, firstOrigin, if_pos rfl]
    split_ifs <;> omega
  · have hne : ¬ (4096 : ℤ) = 0 := by decide
    have hstart : (m.encoderHomePosition.toNat : ℤ) =
        firstOrigin 4096 (oriented m.motorInverted shaft) % 8192 := by
      rw [hhome, firstOrigin, if_neg hne]
      exact (Int.mul_add_emod_self_left 8192 _ 4096).symm
    have hzero : ((m.heard now message).encoderWrapped.toNat : ℤ) = 0 :=
      congrArg (fun value : UInt16 => (value.toNat : ℤ)) hwrapped
    rw [processMessage_eq hstart hown hreports]
    refine tracks_updateEncoderValue hstart (by omega) ?_
    rw [hzero, heard, hrevolutions, firstOrigin, if_neg hne]
    split_ifs <;> omega

theorem Unheard.resetEncoderValue {m : DjiMotorRx} {origin : ℤ} (h : Unheard m origin) :
    Unheard m.resetEncoderValue 4096 := by
  refine ⟨rfl, Or.inr ⟨rfl, ?_, rfl⟩⟩
  obtain ⟨-, ⟨-, hhome, hwrapped⟩ | ⟨-, hhome, hwrapped⟩⟩ := h
  · rw [DjiMotorRx.resetEncoderValue, hhome, hwrapped]
    rfl
  · rw [DjiMotorRx.resetEncoderValue, hhome, hwrapped]
    rfl

/-- The invariant of a run. -/
def Inv (line : EncoderLine) : Prop :=
  match line.last with
  | none => Unheard line.motor line.origin
  | some position => line.motor.Tracks line.origin position

variable {line : EncoderLine} {event : EncoderEvent} {events : List EncoderEvent}

theorem inv_construct (motorIdentifier : UInt32) (isInverted : Bool) :
    (construct motorIdentifier isInverted).Inv := ⟨rfl, Or.inl ⟨rfl, rfl, rfl⟩⟩

/-- **One event**. -/
theorem Inv.step (h : line.Inv) (hslow : line.Slow event) : (line.step event).Inv := by
  obtain ⟨motor, origin, last⟩ := line
  cases event with
  | reset =>
    cases last with
    | none => exact Unheard.resetEncoderValue h
    | some position => exact DjiMotorRx.Tracks.resetEncoderValue h
  | message now message shaft =>
    by_cases hown : message.identifier = motor.motorIdentifier
    · obtain ⟨hreports, hmove⟩ := hslow hown
      rw [EncoderLine.step, if_pos hown]
      cases last with
      | none => exact Unheard.processMessage h hown hreports
      | some position =>
        exact DjiMotorRx.Tracks.processMessage h hown hreports (hmove position rfl)
    · rw [EncoderLine.step, if_neg hown, DjiMotorRx.processMessage, if_pos hown]
      exact h

/-- **The count of the revolutions over a run**: as long as the shaft moves by less than half a
revolution from one message of the motor to the next, the motor says how far the shaft is from where
the count began, and within a revolution of it, through any resets and messages of other motors. -/
theorem getEncoderUnwrapped_run (motorIdentifier : UInt32) (isInverted : Bool)
    (events : List EncoderEvent)
    (hslow : Each step Slow (construct motorIdentifier isInverted) events) {position : ℤ}
    (hlast : (after step (construct motorIdentifier isInverted) events).last = some position) :
    let line := after step (construct motorIdentifier isInverted) events
    line.motor.getEncoderUnwrapped = position - line.origin ∧
      (line.motor.getEncoderWrapped.toNat : ℤ) = (position - line.origin) % 8192 := by
  intro line
  have hinv : line.Inv :=
    hslow.inv_after (fun _ _ h hslow => h.step hslow) (inv_construct motorIdentifier isInverted)
  rw [Inv, hlast] at hinv
  exact ⟨hinv.getEncoderUnwrapped_eq, hinv.wrapped⟩

/-- A motor that is mounted the other way round, whose shaft passes the end of the revolution before
a reset; a motor of another identifier reports in between. -/
def turn : List EncoderEvent :=
  [.message 5 ⟨0x201, 8, #v[31, 64, 0, 9, 0, 1, 40, 0]⟩ 8000,
    .message 6 ⟨0x201, 8, #v[0, 108, 0, 9, 0, 1, 40, 0]⟩ 8300,
    .message 6 ⟨0x204, 8, #v[16, 0, 0, 9, 0, 1, 40, 0]⟩ 4096,
    .reset,
    .message 7 ⟨0x201, 8, #v[3, 40, 0, 9, 0, 1, 40, 0]⟩ 9000]

theorem getEncoderUnwrapped_run_turn :
    (after step (construct 0x201 true) turn).motor.getEncoderUnwrapped =
        -9001 - (after step (construct 0x201 true) turn).origin ∧
      ((after step (construct 0x201 true) turn).motor.getEncoderWrapped.toNat : ℤ) =
        (-9001 - (after step (construct 0x201 true) turn).origin) % 8192 :=
  getEncoderUnwrapped_run 0x201 true turn (by decide +kernel) (by decide +kernel)

end EncoderLine

end Aimbots.Tap
