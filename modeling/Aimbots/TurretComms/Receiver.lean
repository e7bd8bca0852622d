import Aimbots.TurretComms.AngleMessage

/-!
# `TurretCommunicator` on the chassis' board: the receiver

The three handlers assemble a record of the turret's sensor out of a yaw, a pitch and a roll frame,
and publish it with the roll frame.  `TurretCommunicator::init` attaches a listener for each of the
three identifiers; the constructor gives all three the handler of the yaw frame.

Delivered to these listeners, snapshots are reported only if they are all zero.
-/

namespace Aimbots.TurretComms

open Tap

/-- `TurretCommunicator::IMUData`, with its default member values. -/
structure IMUData where
  yaw : ℚ := 0
  yawAngularVelocity : ℚ := 0
  zLinearAcceleration : ℚ := 0
  pitch : ℚ := 0
  pitchAngularVelocity : ℚ := 0
  xLinearAcceleration : ℚ := 0
  roll : ℚ := 0
  rollAngularVelocity : ℚ := 0
  yLinearAcceleration : ℚ := 0
  seq : UInt8 := 0xff
deriving DecidableEq, Repr

/-- The records under assembly and last published of a `TurretCommunicator`. -/
structure TurretCommunicator where
  currentIMUData : IMUData := {}
  lastIMUData : IMUData := {}
deriving DecidableEq, Repr

/-- `static_cast<float>(field) / factor`. -/
def decode (factor : ℚ) (field : Int16) : ℚ := Format.binary32.round (field.toInt / factor)

namespace TurretCommunicator

/-- `handleYawDataRX`. -/
def handleYawDataRX (t : TurretCommunicator) (msg : CanMessage) : TurretCommunicator :=
  let data := AngleMessageData.ofData msg.data
  { t with
    currentIMUData := { t.currentIMUData with
      yaw := decode ANGLE_PRECISION_FACTOR data.target
      yawAngularVelocity := decode ANGLE_PRECISION_FACTOR data.angularVelocity
      zLinearAcceleration := decode LINEAR_PRECISION_FACTOR data.linearAcceleration
      seq := data.seq } }

/-- `handlePitchDataRX`. -/
def handlePitchDataRX (t : TurretCommunicator) (msg : CanMessage) : TurretCommunicator :=
  let data := AngleMessageData.ofData msg.data
  if data.seq ≠ t.currentIMUData.seq then t
  else
    { t with
      currentIMUData := { t.currentIMUData with
        pitch := decode ANGLE_PRECISION_FACTOR data.target
        pitchAngularVelocity := decode ANGLE_PRECISION_FACTOR data.angularVelocity
        xLinearAcceleration := decode LINEAR_PRECISION_FACTOR data.linearAcceleration } }

/-- `handleRollDataRX`. -/
def handleRollDataRX (t : TurretCommunicator) (msg : CanMessage) : TurretCommunicator :=
  let data := AngleMessageData.ofData msg.data
  if data.seq ≠ t.currentIMUData.seq then t
  else
    let currentIMUData := { t.currentIMUData with
      roll := decode ANGLE_PRECISION_FACTOR data.target
      rollAngularVelocity := decode ANGLE_PRECISION_FACTOR data.angularVelocity
      yLinearAcceleration := decode LINEAR_PRECISION_FACTOR data.linearAcceleration }
    { lastIMUData := currentIMUData, currentIMUData := {} }

end TurretCommunicator

/-! ### The getters -/

/-- `AngularAxis`. -/
inductive AngularAxis
  | YAW_AXIS
  | PITCH_AXIS
  | ROLL_AXIS
deriving DecidableEq, Repr

/-- `LinearAxis`. -/
inductive LinearAxis
  | X_AXIS
  | Y_AXIS
  | Z_AXIS
deriving DecidableEq, Repr

/-- `AngleUnit`. -/
inductive AngleUnit
  | Radians
  | Degrees
deriving DecidableEq, Repr

/-- `M_PI`, a `double`. -/
def M_PI : ℚ := 884279719003555 / 281474976710656

/-- `modm::toDegree`: a product in `float`, a quotient in `double`. -/
def toDegree (angle : ℚ) : ℚ :=
  Format.binary32.round (Format.binary64.round (Format.binary32.round (angle * 180) / M_PI))

/-- The conversion of an angle in radians to a unit. -/
def inUnit (unit : AngleUnit) (val : ℚ) : ℚ := if unit = .Radians then val else toDegree val

namespace TurretCommunicator

/-- `getLastReportedAngle`. -/
def getLastReportedAngle (t : TurretCommunicator) (axis : AngularAxis) (unit : AngleUnit) : ℚ :=
  let val := match axis with
    | .YAW_AXIS => t.lastIMUData.yaw
    | .PITCH_AXIS => t.lastIMUData.pitch
    | .ROLL_AXIS => t.lastIMUData.roll
  inUnit unit val

/-- `getLastReportedAngularVelocity`. -/
def getLastReportedAngularVelocity (t : TurretCommunicator) (axis : AngularAxis)
    (unit : AngleUnit) : ℚ :=
  let val := match axis with
    | .YAW_AXIS => t.lastIMUData.yawAngularVelocity
    | .PITCH_AXIS => t.lastIMUData.pitchAngularVelocity
    | .ROLL_AXIS => t.lastIMUData.rollAngularVelocity
  inUnit unit val

/-- `getLastReportedLinearAcceleration`. -/
def getLastReportedLinearAcceleration (t : TurretCommunicator) (axis : LinearAxis) : ℚ :=
  match axis with
  | .X_AXIS => t.lastIMUData.xLinearAcceleration
  | .Y_AXIS => t.lastIMUData.yLinearAcceleration
  | .Z_AXIS => t.lastIMUData.zLinearAcceleration

/-! ### The listeners -/

/-- `RXHandler`: an identifier and the handler that its messages go to. -/
structure RXHandler where
  id : CanID
  proc : TurretCommunicator → CanMessage → TurretCommunicator

/-- The listeners, as the constructor builds them. -/
def yawDataRXHandler : RXHandler := ⟨.YawData, handleYawDataRX⟩

def pitchDataRXHandler : RXHandler := ⟨.PitchData, handleYawDataRX⟩

def rollDataRXHandler : RXHandler := ⟨.RollData, handleYawDataRX⟩

/-- `init`: the three listeners attach themselves to the receive handler of their bus. -/
def init (t : CanRxHandler RXHandler) : Option (CanRxHandler RXHandler) := do
  let t ← t.attachReceiveHandler yawDataRXHandler.id.toUInt32 yawDataRXHandler
  let t ← t.attachReceiveHandler pitchDataRXHandler.id.toUInt32 pitchDataRXHandler
  t.attachReceiveHandler rollDataRXHandler.id.toUInt32 rollDataRXHandler

/-- The identifier of the frames of an axis. -/
def frameID : AngularAxis → CanID
  | .YAW_AXIS => .YawData
  | .PITCH_AXIS => .PitchData
  | .ROLL_AXIS => .RollData

/-- A message that arrives goes to the listener of its identifier. -/
def processMessage (table : CanRxHandler RXHandler) (t : TurretCommunicator) (msg : CanMessage) :
    TurretCommunicator :=
  match table.processReceivedCanData msg with
  | none => t
  | some listener => listener.proc t msg

variable {table₀ table : CanRxHandler RXHandler} {t : TurretCommunicator}

/-- All three listeners hand their messages to the handler of the yaw frame. -/
theorem processMessage_eq (h : init table₀ = some table) (axis : AngularAxis) {msg : CanMessage}
    (hid : msg.identifier = (frameID axis).toUInt32) :
    processMessage table t msg = t.handleYawDataRX msg := by
  obtain ⟨t₁, h₁, h⟩ := Option.bind_eq_some_iff.1 h
  obtain ⟨t₂, h₂, h₃⟩ := Option.bind_eq_some_iff.1 h
  rw [processMessage, CanRxHandler.processReceivedCanData_attach h₃,
    CanRxHandler.processReceivedCanData_attach h₂,
      CanRxHandler.processReceivedCanData_attach h₁, hid]
  cases axis <;> rfl

/-! ### Snapshots -/

/-- The axis whose frames carry a linear acceleration. -/
def accelerationFrame : LinearAxis → AngularAxis
  | .X_AXIS => .PITCH_AXIS
  | .Y_AXIS => .ROLL_AXIS
  | .Z_AXIS => .YAW_AXIS

/-- What the turret's board reads of its sensor at one time: three frames with one sequence
number. -/
structure Snapshot where
  frame : AngularAxis → AngleMessageData
  seq : UInt8
  frame_seq : ∀ axis, (frame axis).seq = seq

/-- The frames of a snapshot, in the order in which they are sent. -/
def Snapshot.messages (s : Snapshot) : List CanMessage :=
  [.YAW_AXIS, .PITCH_AXIS, .ROLL_AXIS].map fun axis =>
    ⟨(frameID axis).toUInt32, 7, (s.frame axis).toData (Vector.replicate 8 0)⟩

/-- The receiver after a sequence of snapshots, delivered in order and without loss. -/
def deliver (table : CanRxHandler RXHandler) (t : TurretCommunicator) (snapshots : List Snapshot) :
    TurretCommunicator :=
  (snapshots.flatMap Snapshot.messages).foldl (processMessage table) t

/-- The getters return the values of the snapshot, for every axis and unit. -/
structure Reports (t : TurretCommunicator) (s : Snapshot) : Prop where
  angle : ∀ axis unit, t.getLastReportedAngle axis unit =
    inUnit unit (decode ANGLE_PRECISION_FACTOR (s.frame axis).target)
  angularVelocity : ∀ axis unit, t.getLastReportedAngularVelocity axis unit =
    inUnit unit (decode ANGLE_PRECISION_FACTOR (s.frame axis).angularVelocity)
  linearAcceleration : ∀ axis, t.getLastReportedLinearAcceleration axis =
    decode LINEAR_PRECISION_FACTOR (s.frame (accelerationFrame axis)).linearAcceleration

/-- All values of the snapshot are zero. -/
def Snapshot.IsZero (s : Snapshot) : Prop :=
  ∀ axis, (s.frame axis).target = 0 ∧ (s.frame axis).angularVelocity = 0 ∧
    (s.frame axis).linearAcceleration = 0

/-- Delivering snapshots never publishes. -/
theorem lastIMUData_deliver (h : init table₀ = some table) (snapshots : List Snapshot) :
    (deliver table t snapshots).lastIMUData = t.lastIMUData := by
  have key : ∀ (msgs : List CanMessage) (t : TurretCommunicator),
      (∀ msg ∈ msgs, ∃ axis, msg.identifier = (frameID axis).toUInt32) →
      (msgs.foldl (processMessage table) t).lastIMUData = t.lastIMUData := by
    intro msgs
    induction msgs with
    | nil => exact fun t _ => rfl
    | cons msg msgs ih =>
      intro t hmsgs
      obtain ⟨axis, hid⟩ := hmsgs msg List.mem_cons_self
      rw [List.foldl_cons, ih _ fun m hm => hmsgs m (List.mem_cons_of_mem _ hm),
        processMessage_eq h axis hid]
      rfl
  refine key _ t fun msg hmsg => ?_
  obtain ⟨s, -, hs⟩ := List.mem_flatMap.1 hmsg
  obtain ⟨axis, -, rfl⟩ := List.mem_map.1 hs
  exact ⟨axis, rfl⟩

/-- A field decodes to zero only if it is zero. -/
theorem decode_eq_zero_iff {factor : ℚ} (h₀ : 0 < factor) (h₁ : factor ≤ 2 ^ 149) {field : Int16} :
    decode factor field = 0 ↔ field = 0 := by
  constructor
  · intro h
    by_contra hne
    refine Format.round_ne_zero (F := Format.binary32) (by decide) ?_ h
    have hint : field.toInt ≠ 0 := fun hz => hne (Int16.toInt_inj.1 (by rw [hz]; rfl))
    have hone : (1 : ℚ) ≤ |(field.toInt : ℚ)| := by exact_mod_cast Int.one_le_abs hint
    rw [abs_div, abs_of_pos h₀, le_div_iff₀ h₀]
    calc (2 : ℚ) ^ Format.binary32.minExponent * factor
        ≤ 2 ^ Format.binary32.minExponent * 2 ^ 149 := by gcongr
      _ = 1 := by norm_num [Format.binary32]
      _ ≤ |(field.toInt : ℚ)| := hone
  · rintro rfl
    simp [decode]

/-- A record that has never been published reads zero for every axis. -/
theorem reports_iff_of_default (h : t.lastIMUData = {}) {s : Snapshot} :
    Reports t s ↔ ∀ axis, decode ANGLE_PRECISION_FACTOR (s.frame axis).target = 0 ∧
      decode ANGLE_PRECISION_FACTOR (s.frame axis).angularVelocity = 0 ∧
      decode LINEAR_PRECISION_FACTOR (s.frame axis).linearAcceleration = 0 := by
  have hangle : ∀ axis unit, t.getLastReportedAngle axis unit = inUnit unit 0 := by
    intro axis unit
    cases axis <;> simp only [getLastReportedAngle, h]
  have hrate : ∀ axis unit, t.getLastReportedAngularVelocity axis unit = inUnit unit 0 := by
    intro axis unit
    cases axis <;> simp only [getLastReportedAngularVelocity, h]
  have hacceleration : ∀ axis, t.getLastReportedLinearAcceleration axis = 0 := by
    intro axis
    cases axis <;> simp only [getLastReportedLinearAcceleration, h]
  constructor
  · intro hs axis
    refine ⟨?_, ?_, ?_⟩
    · exact ((hs.angle axis .Radians).symm.trans (hangle axis .Radians))
    · exact ((hs.angularVelocity axis .Radians).symm.trans (hrate axis .Radians))
    · obtain ⟨linear, rfl⟩ : ∃ linear, accelerationFrame linear = axis := by
        cases axis
        · exact ⟨.Z_AXIS, rfl⟩
        · exact ⟨.X_AXIS, rfl⟩
        · exact ⟨.Y_AXIS, rfl⟩
      exact (hs.linearAcceleration linear).symm.trans (hacceleration linear)
  · intro hs
    refine ⟨fun axis unit => ?_, fun axis unit => ?_, fun axis => ?_⟩
    · rw [hangle, (hs axis).1]
    · rw [hrate, (hs axis).2.1]
    · rw [hacceleration, (hs (accelerationFrame axis)).2.2]

/-- **What the listeners report of a sequence of snapshots**: the values of each of them, after its
roll frame, only if all are zero. -/
theorem received_iff (h : init table₀ = some table) (snapshots : List Snapshot) :
    (∀ i (hi : i < snapshots.length),
      Reports (deliver table {} (snapshots.take (i + 1))) snapshots[i]) ↔
    ∀ s ∈ snapshots, s.IsZero := by
  have hlast : ∀ i, (deliver table {} (snapshots.take (i + 1))).lastIMUData = {} :=
    fun i => lastIMUData_deliver h _
  have hangle : ∀ {field}, decode ANGLE_PRECISION_FACTOR field = 0 ↔ field = 0 :=
    decode_eq_zero_iff (by norm_num [ANGLE_PRECISION_FACTOR]) (by norm_num [ANGLE_PRECISION_FACTOR])
  have hlinear : ∀ {field}, decode LINEAR_PRECISION_FACTOR field = 0 ↔ field = 0 :=
    decode_eq_zero_iff (by norm_num [LINEAR_PRECISION_FACTOR])
      (by norm_num [LINEAR_PRECISION_FACTOR])
  have hone : ∀ i (s : Snapshot),
      Reports (deliver table {} (snapshots.take (i + 1))) s ↔ s.IsZero :=
    fun i s => (reports_iff_of_default (hlast i)).trans (forall_congr' fun axis => by
      rw [hangle, hangle, hlinear])
  simp only [hone]
  exact List.forall_mem_iff_getElem.symm

/-- A snapshot of a turret that has turned one radian, and otherwise stands still. -/
def turned : Snapshot where
  frame
    | .YAW_AXIS => ⟨10000, 0, 0, 0⟩
    | .PITCH_AXIS => ⟨0, 0, 0, 0⟩
    | .ROLL_AXIS => ⟨0, 0, 0, 0⟩
  seq := 0
  frame_seq axis := by cases axis <;> rfl

theorem init_empty : ∃ table, init .empty = some table := ⟨_, rfl⟩

theorem received_iff_turned :
    ∃ table, init .empty = some table ∧
      ((∀ i (hi : i < [turned].length),
        Reports (deliver table {} ([turned].take (i + 1))) [turned][i]) ↔
      ∀ s ∈ [turned], s.IsZero) := by
  obtain ⟨table, h⟩ := init_empty
  exact ⟨table, h, received_iff h [turned]⟩

/-- The receiver keeps saying that the turret has not turned. -/
theorem turned_not_reported :
    ∃ table, init .empty = some table ∧ ¬ Reports (deliver table {} [turned]) turned := by
  obtain ⟨table, h⟩ := init_empty
  refine ⟨table, h, fun hs => ?_⟩
  have hzero := (reports_iff_of_default (lastIMUData_deliver h [turned])).1 hs .YAW_AXIS
  have htarget := (decode_eq_zero_iff (by norm_num [ANGLE_PRECISION_FACTOR])
    (by norm_num [ANGLE_PRECISION_FACTOR])).1 hzero.1
  exact absurd htarget (by decide)

end TurretCommunicator

end Aimbots.TurretComms
