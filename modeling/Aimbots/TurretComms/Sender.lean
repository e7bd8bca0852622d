import Aimbots.TurretComms.AngleMessage

/-!
# `TurretCommunicator::sendIMUData`

The sender on the turret's board.  It builds three messages one after the other, and lays the
structure for all three over the data of the first: the yaw frame leaves with the yaw readings, the
other two frames leave with the bytes that the stack had where they were built.

`sent_encodes_iff` says when a run of the sender nevertheless sends what it reads.
-/

namespace Aimbots.TurretComms

open Tap

/-- `Bmi088::ImuState`. -/
inductive ImuState
  | IMU_NOT_CONNECTED
  | IMU_NOT_CALIBRATED
  | IMU_CALIBRATING
  | IMU_CALIBRATED
deriving DecidableEq, Repr

/-- The readings of the kinematic informant that `sendIMUData` asks for, in radians, radians a
second and metres a second squared. -/
structure ImuReadings where
  yaw : ℚ
  pitch : ℚ
  roll : ℚ
  yawAngularVelocity : ℚ
  pitchAngularVelocity : ℚ
  rollAngularVelocity : ℚ
  xLinearAcceleration : ℚ
  yLinearAcceleration : ℚ
  zLinearAcceleration : ℚ
deriving DecidableEq, Repr

/-- What a call of `sendIMUData` finds: the state of the sensor and of the CAN bus, the readings,
and what the stack holds where the data of the three messages will be. -/
structure SendCall where
  imuState : ImuState
  isReadyToSend : Bool
  readings : ImuReadings
  yawStack : Vector UInt8 8
  pitchStack : Vector UInt8 8
  rollStack : Vector UInt8 8
deriving DecidableEq, Repr

/-- `static_cast<int16_t>` of a `float`: the processor converts to 32 bits, saturating, and keeps
the low half. -/
def toInt16 (x : ℚ) : Int16 := Int16.ofInt (max (-2 ^ 31) (min (2 ^ 31 - 1) (truncate x)))

/-- A reading in the fixed-point representation with the given factor. -/
def encode (factor reading : ℚ) : Int16 := toInt16 (Format.binary32.round (reading * factor))

/-- The condition under which `sendIMUData` sends. -/
def SendCall.Sends (c : SendCall) : Prop :=
  (c.imuState = .IMU_CALIBRATED ∨ c.imuState = .IMU_NOT_CALIBRATED) ∧ c.isReadyToSend = true

instance (c : SendCall) : Decidable c.Sends := by unfold SendCall.Sends; infer_instance

/-- `sendIMUData`: the next sequence number, and the messages handed to the CAN driver. -/
def sendIMUData (sendSequence : UInt8) (c : SendCall) : UInt8 × List CanMessage :=
  if c.Sends then
    let yawMsg : CanMessage := ⟨CanID.YawData.toUInt32, 7, c.yawStack⟩
    let yawData : AngleMessageData := {
      target := encode ANGLE_PRECISION_FACTOR c.readings.yaw
      angularVelocity := encode ANGLE_PRECISION_FACTOR c.readings.yawAngularVelocity
      linearAcceleration := encode LINEAR_PRECISION_FACTOR c.readings.zLinearAcceleration
      seq := sendSequence }
    let yawMsg := { yawMsg with data := yawData.toData yawMsg.data }
    let yawSent := yawMsg
    let pitchMsg : CanMessage := ⟨CanID.PitchData.toUInt32, 7, c.pitchStack⟩
    let pitchData : AngleMessageData := {
      target := encode ANGLE_PRECISION_FACTOR c.readings.pitch
      angularVelocity := encode ANGLE_PRECISION_FACTOR c.readings.pitchAngularVelocity
      linearAcceleration := encode LINEAR_PRECISION_FACTOR c.readings.xLinearAcceleration
      seq := sendSequence }
    -- `pitchData` points to the data of `yawMsg`, and so does `rollData`
    let yawMsg := { yawMsg with data := pitchData.toData yawMsg.data }
    let pitchSent := pitchMsg
    let rollMsg : CanMessage := ⟨CanID.RollData.toUInt32, 7, c.rollStack⟩
    let rollData : AngleMessageData := {
      target := encode ANGLE_PRECISION_FACTOR c.readings.roll
      angularVelocity := encode ANGLE_PRECISION_FACTOR c.readings.rollAngularVelocity
      linearAcceleration := encode LINEAR_PRECISION_FACTOR c.readings.yLinearAcceleration
      seq := sendSequence }
    let _yawMsg := { yawMsg with data := rollData.toData yawMsg.data }
    let rollSent := rollMsg
    (sendSequence + 1, [yawSent, pitchSent, rollSent])
  else (sendSequence, [])

/-- The calls of a run that send, each with the messages it sends. -/
def sent (sendSequence : UInt8) : List SendCall → List (SendCall × List CanMessage)
  | [] => []
  | c :: calls =>
    let r := sendIMUData sendSequence c
    if c.Sends then (c, r.2) :: sent r.1 calls else sent r.1 calls

/-! ### Decoding -/

/-- A field decodes to a reading if it is off by at most one quantisation step. -/
def Decodes (factor : ℚ) (field : Int16) (reading : ℚ) : Prop :=
  |(field.toInt : ℚ) / factor - reading| ≤ 1 / factor

/-- The message has the identifier, the sequence number and the three readings. -/
def FrameEncodes (id : CanID) (seq : UInt8) (angle rate acceleration : ℚ) (msg : CanMessage) :
    Prop :=
  let d := AngleMessageData.ofData msg.data
  msg.identifier = id.toUInt32 ∧ d.seq = seq ∧ Decodes ANGLE_PRECISION_FACTOR d.target angle ∧
    Decodes ANGLE_PRECISION_FACTOR d.angularVelocity rate ∧
    Decodes LINEAR_PRECISION_FACTOR d.linearAcceleration acceleration

/-- The messages are a yaw, a pitch and a roll frame with one sequence number and the readings. -/
def Encodes (seq : UInt8) (r : ImuReadings) (messages : List CanMessage) : Prop :=
  ∃ y p o, messages = [y, p, o] ∧
    FrameEncodes .YawData seq r.yaw r.yawAngularVelocity r.zLinearAcceleration y ∧
    FrameEncodes .PitchData seq r.pitch r.pitchAngularVelocity r.xLinearAcceleration p ∧
    FrameEncodes .RollData seq r.roll r.rollAngularVelocity r.yLinearAcceleration o

/-- Readings within the ranges of the sensor: angles in `[-π, π]`, rates up to 2000 degrees a
second, accelerations up to 327 metres a second squared. -/
structure ImuReadings.InRange (r : ImuReadings) : Prop where
  angle : |r.yaw| ≤ 3.2 ∧ |r.pitch| ≤ 3.2 ∧ |r.roll| ≤ 3.2
  rate : |r.yawAngularVelocity| ≤ 35 ∧ |r.pitchAngularVelocity| ≤ 35 ∧ |r.rollAngularVelocity| ≤ 35
  acceleration : |r.xLinearAcceleration| ≤ 327 ∧ |r.yLinearAcceleration| ≤ 327 ∧
    |r.zLinearAcceleration| ≤ 327

/-! ### One field -/

/-- The readings that a 16-bit field can hold. -/
def Fits (factor reading : ℚ) : Prop :=
  -32769 + 2 ^ (-9 : ℤ) < reading * factor ∧ reading * factor < 32768 - 2 ^ (-10 : ℤ)

variable {factor reading : ℚ}

/-- A scaled reading of at most 19 digits rounds below `2 ^ 15` unless it is less than half a last
place away from it. -/
theorem round_lt_iff {y : ℚ} (hy : |y| < 2 ^ (19 : ℤ)) :
    Format.binary32.round y < 32768 ↔ y < 32768 - 2 ^ (-10 : ℤ) := by
  have he : Format.binary32.exponent y ≤ 0 :=
    (Format.exponent_le _ (by norm_num) hy (by decide)).trans (by decide)
  rcases lt_or_ge y 16384 with h | h
  · have hr := Format.round_le (k := 16384) he (by push_cast; linarith)
    norm_num at hr ⊢
    exact iff_of_true (by linarith) (by linarith)
  rcases lt_or_ge y 32768 with h' | h'
  · have habs : |y| = y := abs_of_nonneg (by linarith)
    have hiff := Format.round_lt_iff (F := Format.binary32) (x := y) (b := 15) (n := 2 ^ 24)
      (by rw [habs]; norm_num; exact h) (by rw [habs]; norm_num; exact h') (by norm_num)
      (by decide) (by decide)
    rw [show (15 : ℤ) - Format.binary32.precision = -9 by decide] at hiff
    norm_num at hiff ⊢
    exact hiff
  · have hr := Format.le_round (k := 32768) he (by push_cast; linarith)
    norm_num at hr ⊢
    exact iff_of_false (by linarith) (by linarith)

theorem lt_round_iff {y : ℚ} (hy : |y| < 2 ^ (19 : ℤ)) :
    -32769 < Format.binary32.round y ↔ -32769 + 2 ^ (-9 : ℤ) < y := by
  have he : Format.binary32.exponent y ≤ 0 :=
    (Format.exponent_le _ (by norm_num) hy (by decide)).trans (by decide)
  rcases lt_or_ge (-32768) y with h | h
  · have hr := Format.le_round (k := -32768) he (by push_cast; linarith)
    norm_num at hr ⊢
    exact iff_of_true (by linarith) (by linarith)
  rcases lt_or_ge (-65536) y with h' | h'
  · have habs : |y| = -y := abs_of_nonpos (by linarith)
    have hiff := Format.lt_round_iff (F := Format.binary32) (x := y) (b := 16) (n := -32769 * 2 ^ 8)
      (by rw [habs]; norm_num; linarith) (by rw [habs]; norm_num; linarith) (by norm_num)
      (by decide) (by decide)
    rw [show (16 : ℤ) - Format.binary32.precision = -8 by decide] at hiff
    norm_num at hiff ⊢
    exact hiff
  · have hr := Format.round_le (k := -65536) he (by push_cast; linarith)
    norm_num at hr ⊢
    exact iff_of_false (by linarith) (by linarith)

/-- Rounding and dropping the part behind the point move a number by at most one. -/
theorem abs_truncate_round_sub_le {y : ℚ} (hy : |y| < 2 ^ (19 : ℤ)) :
    |(truncate (Format.binary32.round y) : ℚ) - y| ≤ 1 := by
  have he : Format.binary32.exponent y ≤ 0 :=
    (Format.exponent_le _ (by norm_num) hy (by decide)).trans (by decide)
  have h₀ := Int.floor_le y
  have h₁ := Int.lt_floor_add_one y
  have hlo : ⌊y⌋ ≤ truncate (Format.binary32.round y) :=
    le_truncate (by simpa using Format.le_round he (by simpa using h₀))
  have hhi : truncate (Format.binary32.round y) ≤ ⌊y⌋ + 1 :=
    truncate_le (by simpa using Format.round_le (k := ⌊y⌋ + 1) he (by push_cast; linarith))
  have hloq : (⌊y⌋ : ℚ) ≤ truncate (Format.binary32.round y) := by exact_mod_cast hlo
  have hhiq : (truncate (Format.binary32.round y) : ℚ) ≤ ⌊y⌋ + 1 := by exact_mod_cast hhi
  rw [abs_le]
  constructor <;> linarith

/-- The field keeps the low 16 bits of the truncated product. -/
theorem toInt_encode {factor reading : ℚ} (hy : |reading * factor| < 2 ^ (19 : ℤ)) :
    (encode factor reading).toInt =
      (truncate (Format.binary32.round (reading * factor))).bmod 65536 := by
  set t := truncate (Format.binary32.round (reading * factor)) with htdef
  have herr := abs_le.1 (abs_truncate_round_sub_le hy)
  rw [← htdef] at herr
  have hyabs := abs_lt.1 hy
  norm_num at hyabs
  have htlo : -524290 < t := by
    have : (-524290 : ℚ) < t := by linarith
    exact_mod_cast this
  have hthi : t < 524290 := by
    have : (t : ℚ) < 524290 := by linarith
    exact_mod_cast this
  rw [encode, toInt16, ← htdef, Int16.toInt_ofInt]
  congr 1
  omega

/-- **A field holds its reading exactly if the reading fits.** -/
theorem decodes_encode_iff (factor reading : ℚ) (hfactor : 0 < factor)
    (hy : |reading * factor| < 2 ^ (19 : ℤ)) :
    Decodes factor (encode factor reading) reading ↔ Fits factor reading := by
  have hfield := toInt_encode hy
  have herr := abs_truncate_round_sub_le hy
  set y := reading * factor with hydef
  set t := truncate (Format.binary32.round y) with htdef
  have hdecodes : Decodes factor (encode factor reading) reading ↔
      |((t.bmod 65536 : ℤ) : ℚ) - y| ≤ 1 := by
    rw [Decodes, hfield, div_sub' hfactor.ne', abs_div, abs_of_pos hfactor,
      div_le_div_iff_of_pos_right hfactor, mul_comm factor, hydef]
  have hfits : Fits factor reading ↔ -32769 < t ∧ t < 32768 := by
    rw [Fits, ← hydef, ← lt_round_iff hy, ← round_lt_iff hy, htdef,
      lt_truncate_iff (by norm_num), truncate_lt_iff (by norm_num)]
    norm_num
  rw [hdecodes, hfits]
  constructor
  · intro h
    by_contra hout
    -- what wraps around is off by a multiple of `2 ^ 16`
    have hoff : t.bmod 65536 - t ≤ -65536 ∨ 65536 ≤ t.bmod 65536 - t := by
      rw [Int.bmod_def]
      split_ifs <;> omega
    rw [abs_le] at h
    have herr' := abs_le.1 herr
    rcases hoff with hoff | hoff
    · have hoffq : ((t.bmod 65536 : ℤ) : ℚ) - t ≤ -65536 := by exact_mod_cast hoff
      linarith
    · have hoffq : (65536 : ℚ) ≤ ((t.bmod 65536 : ℤ) : ℚ) - t := by exact_mod_cast hoff
      linarith
  · rintro ⟨h₀, h₁⟩
    have hin : t.bmod 65536 = t := by
      rw [Int.bmod_def]
      split_ifs <;> omega
    rwa [hin]

/-! ### A run of the sender -/

/-- The calls whose three frames say what was read: the yaw rate fits its field, and the stack
holds, by chance, the pitch and the roll frame that should have been built there. -/
def SendsReadings (seq : UInt8) (c : SendCall) : Prop :=
  Fits ANGLE_PRECISION_FACTOR c.readings.yawAngularVelocity ∧
    FrameEncodes .PitchData seq c.readings.pitch c.readings.pitchAngularVelocity
      c.readings.xLinearAcceleration ⟨CanID.PitchData.toUInt32, 7, c.pitchStack⟩ ∧
    FrameEncodes .RollData seq c.readings.roll c.readings.rollAngularVelocity
      c.readings.yLinearAcceleration ⟨CanID.RollData.toUInt32, 7, c.rollStack⟩

theorem fits_of_abs_le {bound : ℚ} (hfactor : 0 < factor) (h : |reading| ≤ bound)
    (hbound : bound * factor ≤ 32767) : Fits factor reading := by
  have habs : |reading * factor| ≤ 32767 := by
    rw [abs_mul, abs_of_pos hfactor]
    exact (mul_le_mul_of_nonneg_right h hfactor.le).trans hbound
  rw [abs_le] at habs
  constructor <;> norm_num <;> linarith

theorem decodes_encode_of_abs_le {bound : ℚ} (hfactor : 0 < factor) (h : |reading| ≤ bound)
    (hbound : bound * factor ≤ 32767) : Decodes factor (encode factor reading) reading := by
  refine (decodes_encode_iff factor reading hfactor ?_).2 (fits_of_abs_le hfactor h hbound)
  rw [abs_mul, abs_of_pos hfactor]
  have hle := (mul_le_mul_of_nonneg_right h hfactor.le).trans hbound
  norm_num
  linarith

/-- **One call that sends.** -/
theorem sendIMUData_encodes_iff {seq : UInt8} {c : SendCall} (hsends : c.Sends)
    (hrange : c.readings.InRange) :
    Encodes seq c.readings (sendIMUData seq c).2 ↔ SendsReadings seq c := by
  have hangle : Decodes ANGLE_PRECISION_FACTOR (encode ANGLE_PRECISION_FACTOR c.readings.yaw)
      c.readings.yaw :=
    decodes_encode_of_abs_le (by norm_num [ANGLE_PRECISION_FACTOR]) hrange.angle.1
      (by norm_num [ANGLE_PRECISION_FACTOR])
  have hacceleration : Decodes LINEAR_PRECISION_FACTOR
      (encode LINEAR_PRECISION_FACTOR c.readings.zLinearAcceleration)
      c.readings.zLinearAcceleration :=
    decodes_encode_of_abs_le (by norm_num [LINEAR_PRECISION_FACTOR]) hrange.acceleration.2.2
      (by norm_num [LINEAR_PRECISION_FACTOR])
  have hrate := decodes_encode_iff ANGLE_PRECISION_FACTOR c.readings.yawAngularVelocity
    (by norm_num [ANGLE_PRECISION_FACTOR]) (by
      rw [abs_mul, ANGLE_PRECISION_FACTOR]
      have h := hrange.rate.1
      norm_num
      linarith)
  rw [sendIMUData, if_pos hsends, SendsReadings, ← hrate]
  simp only [Encodes]
  constructor
  · rintro ⟨y, p, o, hmessages, hyaw, hpitch, hroll⟩
    obtain ⟨rfl, rfl, rfl⟩ : _ = y ∧ _ = p ∧ _ = o := by simpa using hmessages
    have h := hyaw.2.2.2.1
    rw [AngleMessageData.ofData_toData] at h
    exact ⟨h, hpitch, hroll⟩
  · rintro ⟨h, hpitch, hroll⟩
    refine ⟨_, _, _, rfl, ?_, hpitch, hroll⟩
    rw [FrameEncodes, AngleMessageData.ofData_toData]
    exact ⟨rfl, rfl, hangle, h, hacceleration⟩

/-- The `i`-th call that sends uses the `i`-th sequence number. -/
theorem sent_getElem (seq : UInt8) (calls : List SendCall) (i : ℕ)
    (hi : i < (sent seq calls).length) :
    (sent seq calls)[i].1 ∈ calls ∧ (sent seq calls)[i].1.Sends ∧
      (sent seq calls)[i].2 = (sendIMUData (seq + UInt8.ofNat i) (sent seq calls)[i].1).2 := by
  induction calls generalizing seq i with
  | nil => exact absurd hi (Nat.not_lt_zero i)
  | cons c calls ih =>
    by_cases hsends : c.Sends
    · have hcons : sent seq (c :: calls) =
          (c, (sendIMUData seq c).2) :: sent (seq + 1) calls := by
        simp only [sent, if_pos hsends]
        congr 2
        simp [sendIMUData, hsends]
      simp only [hcons] at hi ⊢
      cases i with
      | zero => exact ⟨List.mem_cons_self, hsends, by simp⟩
      | succ i =>
        simp only [List.length_cons, Nat.add_lt_add_iff_right] at hi
        obtain ⟨hmem, hs, heq⟩ := ih (seq + 1) i hi
        have hseq : seq + UInt8.ofNat (i + 1) = seq + 1 + UInt8.ofNat i := by
          rw [UInt8.ofNat_add, UInt8.add_assoc, UInt8.add_comm (UInt8.ofNat i)]
          rfl
        simp only [List.getElem_cons_succ, hseq]
        exact ⟨List.mem_cons_of_mem _ hmem, hs, heq⟩
    · have hskip : sent seq (c :: calls) = sent seq calls := by
        simp [sent, if_neg hsends, sendIMUData]
      simp only [hskip] at hi ⊢
      obtain ⟨hmem, hs, heq⟩ := ih seq i hi
      exact ⟨List.mem_cons_of_mem _ hmem, hs, heq⟩

/-- **When a run of the sender sends what it reads**, with successive sequence numbers: exactly if
every call that sends does so with a yaw rate that fits its field and with the right bytes on the
stack. -/
theorem sent_encodes_iff (seq : UInt8) (calls : List SendCall)
    (hrange : ∀ c ∈ calls, c.readings.InRange) :
    (∀ i (hi : i < (sent seq calls).length), Encodes (seq + UInt8.ofNat i)
      (sent seq calls)[i].1.readings (sent seq calls)[i].2) ↔
    ∀ i (hi : i < (sent seq calls).length),
      SendsReadings (seq + UInt8.ofNat i) (sent seq calls)[i].1 := by
  refine forall_congr' fun i => forall_congr' fun hi => ?_
  obtain ⟨hmem, hsends, heq⟩ := sent_getElem seq calls i hi
  rw [heq]
  exact sendIMUData_encodes_iff hsends (hrange _ hmem)

/-- A turret that looks half a radian up. -/
def lookingUp : SendCall where
  imuState := .IMU_CALIBRATED
  isReadyToSend := true
  readings := ⟨0, 1 / 2, 0, 0, 0, 0, 0, 0, 0⟩
  yawStack := Vector.replicate 8 0
  pitchStack := Vector.replicate 8 0
  rollStack := Vector.replicate 8 0

theorem lookingUp_inRange : lookingUp.readings.InRange := by
  refine ⟨⟨?_, ?_, ?_⟩, ⟨?_, ?_, ?_⟩, ⟨?_, ?_, ?_⟩⟩ <;> norm_num [lookingUp]

theorem sent_encodes_iff_lookingUp :
    (∀ i (hi : i < (sent 255 [lookingUp]).length), Encodes (255 + UInt8.ofNat i)
      (sent 255 [lookingUp])[i].1.readings (sent 255 [lookingUp])[i].2) ↔
    ∀ i (hi : i < (sent 255 [lookingUp]).length),
      SendsReadings (255 + UInt8.ofNat i) (sent 255 [lookingUp])[i].1 :=
  sent_encodes_iff 255 [lookingUp] fun c hc => by
    rw [List.mem_singleton.1 hc]
    exact lookingUp_inRange

/-- Its pitch frame says that it looks straight ahead. -/
theorem lookingUp_not_encoded :
    lookingUp.Sends ∧ lookingUp.readings.InRange ∧
      ¬ Encodes 0 lookingUp.readings (sendIMUData 0 lookingUp).2 := by
  have hsends : lookingUp.Sends := by decide
  refine ⟨hsends, lookingUp_inRange, fun h => ?_⟩
  have hpitch := ((sendIMUData_encodes_iff hsends lookingUp_inRange).1 h).2.1.2.2.1
  have hzero : (AngleMessageData.ofData lookingUp.pitchStack).target.toInt = 0 := by decide
  rw [Decodes, hzero] at hpitch
  norm_num [lookingUp, ANGLE_PRECISION_FACTOR] at hpitch

end Aimbots.TurretComms
