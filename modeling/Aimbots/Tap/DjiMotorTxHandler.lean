import Aimbots.Tap.Can
import Aimbots.Tap.DjiMotor
import Mathlib.Data.List.FinRange
import Mathlib.Tactic.SplitIfs

/-!
# `tap/motor/dji_motor_tx_handler.cpp`: what the motors are told

The handler keeps the motors of each of the two buses in the slot of their identifier.
`encodeAndSendCanData` puts the outputs of the slots 0 to 3 of a bus in one message, and those of
the slots 4 to 7 in another.  `heard_run`: after any motors have been initialized and destroyed, and
been told their outputs, what a slot of a bus reads in the messages is the output of the motor that
was initialized there last, or 0 if a motor of that slot has been destroyed since.
-/

namespace Aimbots.Tap

/-- `can::CanBus`. -/
inductive CanBus where
  | CAN_BUS1
  | CAN_BUS2
deriving DecidableEq, Repr

/-- What a `DjiMotor` is constructed with. -/
structure MotorPort where
  motorIdentifier : UInt32
  motorCanBus : CanBus
deriving DecidableEq, Repr

/-- `DJI_MOTOR_TO_NORMALIZED_ID`; the first identifier is `MOTOR1`. -/
def normalizedId (id : UInt32) : ℕ := if id.toNat < 0x201 then 8 else id.toNat - 0x201

/-- The motors of a bus, by slot. -/
abbrev MotorStore (Motor : Type*) := Fin 8 → Option Motor

/-- `DjiMotor::serializeCanSendData`. -/
def serializeCanSendData (port : MotorPort) (motor : DjiMotor) (txMessage : CanMessage) :
    CanMessage :=
  let id := normalizedId port.motorIdentifier % 4
  have hid : id < 4 := Nat.mod_lt _ (by decide)
  { txMessage with
    data := (txMessage.data.set (2 * id) (highByte motor.getOutputDesired) (by omega)).set
      (2 * id + 1) (lowByte motor.getOutputDesired) (by omega) }

/-- The two messages of a bus, and whether they are to be sent. -/
structure SendData where
  messageLow : CanMessage
  messageHigh : CanMessage
  validMotorMessageLow : Bool
  validMotorMessageHigh : Bool
deriving DecidableEq, Repr

/-- `DjiMotorTxHandler`. -/
structure DjiMotorTxHandler (Motor : Type*) where
  can1MotorStore : MotorStore Motor
  can2MotorStore : MotorStore Motor

namespace DjiMotorTxHandler

variable {Motor : Type*}

/-- The handler without motors. -/
def empty : DjiMotorTxHandler Motor := ⟨fun _ => none, fun _ => none⟩

/-- The store of a bus. -/
def motorStore (h : DjiMotorTxHandler Motor) : CanBus → MotorStore Motor
  | .CAN_BUS1 => h.can1MotorStore
  | .CAN_BUS2 => h.can2MotorStore

section Operations

variable (port : Motor → MotorPort) (output : Motor → DjiMotor)

/-- `addMotorToManager` of a store; `none` is a failed assertion. -/
def addMotorToStore (canMotorStore : MotorStore Motor) (motor : Motor) :
    Option (MotorStore Motor) :=
  let idIndex := normalizedId (port motor).motorIdentifier
  if h : idIndex < 8 then
    if (canMotorStore ⟨idIndex, h⟩).isNone then
      some (Function.update canMotorStore ⟨idIndex, h⟩ (some motor))
    else none
  else none

/-- `addMotorToManager`. -/
def addMotorToManager (h : DjiMotorTxHandler Motor) (motor : Motor) :
    Option (DjiMotorTxHandler Motor) :=
  match (port motor).motorCanBus with
  | .CAN_BUS1 => (addMotorToStore port h.can1MotorStore motor).map
      fun store => { h with can1MotorStore := store }
  | .CAN_BUS2 => (addMotorToStore port h.can2MotorStore motor).map
      fun store => { h with can2MotorStore := store }

/-- `removeFromMotorManager` of a store, with the errors it raises. -/
def removeFromStore (motorStore : MotorStore Motor) (motor : Motor) :
    MotorStore Motor × List String :=
  let id := normalizedId (port motor).motorIdentifier
  if h : id < 8 then
    if (motorStore ⟨id, h⟩).isNone then (motorStore, ["invalid motor id"])
    else (Function.update motorStore ⟨id, h⟩ none, [])
  else (motorStore, ["invalid motor id"])

/-- `removeFromMotorManager`. -/
def removeFromMotorManager (h : DjiMotorTxHandler Motor) (motor : Motor) :
    DjiMotorTxHandler Motor × List String :=
  match (port motor).motorCanBus with
  | .CAN_BUS1 =>
    ({ h with can1MotorStore := (removeFromStore port h.can1MotorStore motor).1 },
      (removeFromStore port h.can1MotorStore motor).2)
  | .CAN_BUS2 =>
    ({ h with can2MotorStore := (removeFromStore port h.can2MotorStore motor).1 },
      (removeFromStore port h.can2MotorStore motor).2)

/-- `getCan1Motor` and `getCan2Motor`. -/
def getCanMotor (h : DjiMotorTxHandler Motor) (bus : CanBus) (motorId : UInt32) : Option Motor :=
  if hid : normalizedId motorId < 8 then h.motorStore bus ⟨normalizedId motorId, hid⟩ else none

/-- One slot of `serializeMotorStoreSendData`. -/
def serializeSlot (canMotorStore : MotorStore Motor) (data : SendData) (i : Fin 8) : SendData :=
  match canMotorStore i with
  | none => data
  | some motor =>
    if normalizedId (port motor).motorIdentifier ≤ 3 then
      { data with
        messageLow := serializeCanSendData (port motor) (output motor) data.messageLow
        validMotorMessageLow := true }
    else
      { data with
        messageHigh := serializeCanSendData (port motor) (output motor) data.messageHigh
        validMotorMessageHigh := true }

/-- `serializeMotorStoreSendData`. -/
def serializeMotorStoreSendData (canMotorStore : MotorStore Motor) (data : SendData) : SendData :=
  (List.finRange 8).foldl (serializeSlot port output canMotorStore) data

/-- The messages that `encodeAndSendCanData` sets up for a bus. -/
def setUp : SendData :=
  ⟨⟨0x200, 8, Vector.replicate 8 0⟩, ⟨0x1FF, 8, Vector.replicate 8 0⟩, false, false⟩

/-- The messages of a bus that `encodeAndSendCanData` sends. -/
def busMessages (isReadyToSend : Bool) (data : SendData) : List CanMessage :=
  if isReadyToSend then
    (if data.validMotorMessageLow then [data.messageLow] else []) ++
      (if data.validMotorMessageHigh then [data.messageHigh] else [])
  else []

/-- `encodeAndSendCanData`: the messages that are given to the driver, and the errors. -/
def encodeAndSendCanData (h : DjiMotorTxHandler Motor) (isReadyToSend : CanBus → Bool)
    (sendMessage : CanBus → CanMessage → Bool) : List (CanBus × CanMessage) × List String :=
  let data1 := serializeMotorStoreSendData port output h.can1MotorStore setUp
  let data2 := serializeMotorStoreSendData port output h.can2MotorStore setUp
  let messages :=
    (busMessages (isReadyToSend .CAN_BUS1) data1).map (fun message => (.CAN_BUS1, message)) ++
      (busMessages (isReadyToSend .CAN_BUS2) data2).map fun message => (.CAN_BUS2, message)
  let messageSuccess := messages.all fun sent => sendMessage sent.1 sent.2
  (messages, if messageSuccess then [] else ["sendMessage failure"])

end Operations

/-! ### What a slot reads -/

/-- The message that a slot listens to is the second. -/
def isHigh (slot : Fin 8) : Bool := decide (4 ≤ slot.val)

/-- The identifier that a slot listens to. -/
def commandIdentifier (slot : Fin 8) : UInt32 := if isHigh slot then 0x1FF else 0x200

/-- The field of a message that a slot reads. -/
def command (message : CanMessage) (slot : Fin 8) : Int16 :=
  have hslot : slot.val % 4 < 4 := Nat.mod_lt _ (by decide)
  int16OfBytes message.data[2 * (slot.val % 4) + 1] message.data[2 * (slot.val % 4)]

/-- What a slot of a bus is told by the messages that were sent. -/
def heard (sent : List (CanBus × CanMessage)) (bus : CanBus) (slot : Fin 8) : List Int16 :=
  (sent.filter fun message => message.1 = bus ∧ message.2.identifier = commandIdentifier slot).map
    fun message => command message.2 slot

/-- The message of one half of the slots, and whether it is to be sent. -/
def message (data : SendData) (high : Bool) : CanMessage :=
  if high then data.messageHigh else data.messageLow

def valid (data : SendData) (high : Bool) : Bool :=
  if high then data.validMotorMessageHigh else data.validMotorMessageLow

/-- A motor is in the slot of its identifier. -/
def Placed (port : Motor → MotorPort) (store : MotorStore Motor) : Prop :=
  ∀ slot motor, store slot = some motor → normalizedId (port motor).motorIdentifier = slot.val

variable {port : Motor → MotorPort} {output : Motor → DjiMotor} {store : MotorStore Motor}
  {data : SendData} {slot i : Fin 8}

/-- **A motor that is serialized** is what its own slot of the half reads. -/
theorem command_serializeCanSendData (p : MotorPort) (motor : DjiMotor) (m : CanMessage) :
    command (serializeCanSendData p motor m) slot =
      if normalizedId p.motorIdentifier % 4 = slot.val % 4 then motor.getOutputDesired
      else command m slot := by
  simp only [command, serializeCanSendData, Vector.getElem_set]
  by_cases hslot : normalizedId p.motorIdentifier % 4 = slot.val % 4
  · have h₁ : 2 * (normalizedId p.motorIdentifier % 4) + 1 = 2 * (slot.val % 4) + 1 := by omega
    have h₃ : ¬ 2 * (normalizedId p.motorIdentifier % 4) + 1 = 2 * (slot.val % 4) := by omega
    have h₄ : 2 * (normalizedId p.motorIdentifier % 4) = 2 * (slot.val % 4) := by omega
    rw [if_pos hslot, if_pos h₁, if_neg h₃, if_pos h₄, int16OfBytes_bytes]
  · have h₁ : ¬ 2 * (normalizedId p.motorIdentifier % 4) + 1 = 2 * (slot.val % 4) + 1 := by omega
    have h₂ : ¬ 2 * (normalizedId p.motorIdentifier % 4) = 2 * (slot.val % 4) + 1 := by omega
    have h₃ : ¬ 2 * (normalizedId p.motorIdentifier % 4) + 1 = 2 * (slot.val % 4) := by omega
    have h₄ : ¬ 2 * (normalizedId p.motorIdentifier % 4) = 2 * (slot.val % 4) := by omega
    rw [if_neg hslot, if_neg h₁, if_neg h₂, if_neg h₃, if_neg h₄]

/-- **One slot**: its motor is put in the message of its half. -/
theorem message_serializeSlot (hplaced : Placed port store) (high : Bool) :
    message (serializeSlot port output store data i) high =
      if isHigh i = high then
        (store i).elim (message data high) fun motor =>
          serializeCanSendData (port motor) (output motor) (message data high)
      else message data high := by
  unfold serializeSlot
  cases hstore : store i with
  | none => rw [Option.elim_none, ite_self]
  | some motor =>
    have hid := hplaced i motor hstore
    dsimp only
    rw [hid, Option.elim_some]
    by_cases hlow : i.val ≤ 3
    · have hhigh : isHigh i = false := decide_eq_false (by omega)
      rw [if_pos hlow, hhigh]
      cases high <;> rfl
    · have hhigh : isHigh i = true := decide_eq_true (by omega)
      rw [if_neg hlow, hhigh]
      cases high <;> rfl

theorem valid_serializeSlot (hplaced : Placed port store) (high : Bool) :
    valid (serializeSlot port output store data i) high =
      (valid data high || (isHigh i == high && (store i).isSome)) := by
  unfold serializeSlot
  cases hstore : store i with
  | none => rw [Option.isSome_none, Bool.and_false, Bool.or_false]
  | some motor =>
    have hid := hplaced i motor hstore
    dsimp only
    rw [hid]
    by_cases hlow : i.val ≤ 3
    · have hhigh : isHigh i = false := decide_eq_false (by omega)
      rw [if_pos hlow, hhigh]
      cases high <;> simp [valid]
    · have hhigh : isHigh i = true := decide_eq_true (by omega)
      rw [if_neg hlow, hhigh]
      cases high <;> simp [valid]

/-- What a slot reads in the message of its half after one slot. -/
theorem command_serializeSlot (hplaced : Placed port store) :
    command (message (serializeSlot port output store data i) (isHigh slot)) slot =
      if i = slot then
        (store i).elim (command (message data (isHigh slot)) slot) fun motor =>
          (output motor).getOutputDesired
      else command (message data (isHigh slot)) slot := by
  rw [message_serializeSlot hplaced]
  by_cases heq : i = slot
  · rw [heq, if_pos rfl, if_pos rfl]
    cases hstore : store slot with
    | none => rfl
    | some motor =>
      rw [Option.elim_some, Option.elim_some, command_serializeCanSendData,
        hplaced slot motor hstore, if_pos rfl]
  · rw [if_neg heq]
    split_ifs with hhalf
    · cases hstore : store i with
      | none => rfl
      | some motor =>
        -- two slots of one half have different fields
        have hne : ¬ i.val % 4 = slot.val % 4 := by
          have hval : i.val ≠ slot.val := Fin.val_ne_of_ne heq
          have hsame : 4 ≤ i.val ↔ 4 ≤ slot.val := decide_eq_decide.1 hhalf
          omega
        rw [Option.elim_some, command_serializeCanSendData, hplaced i motor hstore, if_neg hne]
    · rfl

theorem command_foldl (hplaced : Placed port store) (slots : List (Fin 8)) :
    command (message (slots.foldl (serializeSlot port output store) data) (isHigh slot)) slot =
      if slot ∈ slots then
        (store slot).elim (command (message data (isHigh slot)) slot) fun motor =>
          (output motor).getOutputDesired
      else command (message data (isHigh slot)) slot := by
  induction slots generalizing data with
  | nil => rfl
  | cons i slots ih =>
    rw [List.foldl_cons, ih, command_serializeSlot hplaced]
    by_cases heq : i = slot
    · subst heq
      rw [if_pos rfl, if_pos List.mem_cons_self]
      cases store i <;> exact ite_self _
    · simp only [if_neg heq, List.mem_cons, Ne.symm heq, false_or]

theorem valid_foldl (hplaced : Placed port store) (high : Bool) (slots : List (Fin 8)) :
    valid (slots.foldl (serializeSlot port output store) data) high =
      (valid data high || slots.any fun i => isHigh i == high && (store i).isSome) := by
  induction slots generalizing data with
  | nil => rw [List.any_nil, Bool.or_false]; rfl
  | cons i slots ih =>
    rw [List.foldl_cons, ih, valid_serializeSlot hplaced, List.any_cons, Bool.or_assoc]

theorem identifier_foldl (hplaced : Placed port store) (high : Bool) (slots : List (Fin 8)) :
    (message (slots.foldl (serializeSlot port output store) data) high).identifier =
      (message data high).identifier := by
  induction slots generalizing data with
  | nil => rfl
  | cons i slots ih =>
    rw [List.foldl_cons, ih, message_serializeSlot hplaced]
    split_ifs
    · cases store i <;> rfl
    · rfl

/-- The motors of a bus that have a slot of a half. -/
def anyIn (store : MotorStore Motor) (high : Bool) : Bool :=
  (List.finRange 8).any fun i => isHigh i == high && (store i).isSome

/-- **The messages of a bus**: what a slot reads in them. -/
theorem heard_busMessages (output : Motor → DjiMotor) (slot : Fin 8) (hplaced : Placed port store)
    (isReadyToSend : Bool) :
    ((busMessages isReadyToSend (serializeMotorStoreSendData port output store setUp)).filter
        fun m => decide (m.identifier = commandIdentifier slot)).map (fun m => command m slot) =
      if isReadyToSend && anyIn store (isHigh slot) then
        [(store slot).elim 0 fun motor => (output motor).getOutputDesired]
      else [] := by
  have hcommand : command (message (serializeMotorStoreSendData port output store setUp)
      (isHigh slot)) slot = (store slot).elim 0 fun motor => (output motor).getOutputDesired := by
    have hzero : command (message setUp (isHigh slot)) slot = 0 := by
      revert slot
      decide
    rw [serializeMotorStoreSendData, command_foldl hplaced, if_pos (List.mem_finRange slot), hzero]
  have hvalid : ∀ high, valid (serializeMotorStoreSendData port output store setUp) high =
      anyIn store high := fun high => by
    rw [serializeMotorStoreSendData, valid_foldl hplaced]
    cases high <;> exact Bool.false_or _
  have hidentifier : ∀ high,
      (message (serializeMotorStoreSendData port output store setUp) high).identifier =
        if high then 0x1FF else 0x200 := fun high => by
    rw [serializeMotorStoreSendData, identifier_foldl hplaced]
    cases high <;> rfl
  rw [← hcommand]
  generalize serializeMotorStoreSendData port output store setUp = data at hvalid hidentifier ⊢
  have hlow : data.messageLow.identifier = 0x200 := hidentifier false
  have hhigh : data.messageHigh.identifier = 0x1FF := hidentifier true
  have hvalidLow : data.validMotorMessageLow = anyIn store false := hvalid false
  have hvalidHigh : data.validMotorMessageHigh = anyIn store true := hvalid true
  rw [busMessages, hvalidLow, hvalidHigh, commandIdentifier]
  cases isReadyToSend <;> cases hhalf : isHigh slot <;> cases anyIn store false <;>
    cases anyIn store true <;> simp [hlow, hhigh, message]

/-- **What is sent**: a slot reads its motor in what is sent on its bus. -/
theorem heard_encodeAndSendCanData {h : DjiMotorTxHandler Motor}
    (hplaced : ∀ bus, Placed port (h.motorStore bus)) (isReadyToSend : CanBus → Bool)
    (sendMessage : CanBus → CanMessage → Bool) (bus : CanBus) :
    heard (h.encodeAndSendCanData port output isReadyToSend sendMessage).1 bus slot =
      if isReadyToSend bus && anyIn (h.motorStore bus) (isHigh slot) then
        [(h.motorStore bus slot).elim 0 fun motor => (output motor).getOutputDesired]
      else [] := by
  have hhalf := heard_busMessages output slot (hplaced bus)
    (isReadyToSend bus)
  rw [← hhalf]
  simp only [heard, encodeAndSendCanData, List.filter_append, List.filter_map, List.map_append,
    List.map_map]
  cases bus
  · have hother : ∀ messages : List CanMessage, messages.filter
        ((fun m : CanBus × CanMessage => decide (m.1 = .CAN_BUS1 ∧
          m.2.identifier = commandIdentifier slot)) ∘ fun m => (.CAN_BUS2, m)) = [] :=
      fun messages => List.filter_eq_nil_iff.2 fun m _ => by simp
    rw [hother, List.map_nil, List.append_nil]
    simp [Function.comp_def, motorStore]
  · have hother : ∀ messages : List CanMessage, messages.filter
        ((fun m : CanBus × CanMessage => decide (m.1 = .CAN_BUS2 ∧
          m.2.identifier = commandIdentifier slot)) ∘ fun m => (.CAN_BUS1, m)) = [] :=
      fun messages => List.filter_eq_nil_iff.2 fun m _ => by simp
    rw [hother, List.map_nil, List.nil_append]
    simp [Function.comp_def, motorStore]

end DjiMotorTxHandler

/-! ### The motors of the robot -/

/-- What happens to the motors. -/
inductive MotorEvent (Motor : Type*) where
  /-- `DjiMotor::initialize` -/
  | initializeMotor (motor : Motor)
  /-- the destructor -/
  | destroy (motor : Motor)
  | setDesiredOutput (motor : Motor) (desiredOutput : ℤ)

/-- The motors, and the handler that they are registered with. -/
structure MotorLine (Motor : Type*) where
  handler : DjiMotorTxHandler Motor
  output : Motor → DjiMotor

namespace MotorLine

open DjiMotorTxHandler

variable {Motor : Type*} [DecidableEq Motor]

/-- Motors that have been constructed. -/
def construct (isInverted : Motor → Bool) : MotorLine Motor :=
  ⟨.empty, fun motor => ⟨isInverted motor, 0⟩⟩

/-- One event; `none` is a failed assertion. -/
def step (port : Motor → MotorPort) (line : MotorLine Motor) :
    MotorEvent Motor → Option (MotorLine Motor)
  | .initializeMotor motor => (line.handler.addMotorToManager port motor).map
      fun handler => { line with handler := handler }
  | .destroy motor =>
    some { line with handler := (line.handler.removeFromMotorManager port motor).1 }
  | .setDesiredOutput motor desiredOutput =>
    some { line with
      output := Function.update line.output motor
        ((line.output motor).setDesiredOutput desiredOutput) }

/-- The motor has the slot of the bus. -/
def At (port : Motor → MotorPort) (bus : CanBus) (slot : Fin 8) (motor : Motor) : Prop :=
  (port motor).motorCanBus = bus ∧ normalizedId (port motor).motorIdentifier = slot.val

instance (port : Motor → MotorPort) (bus : CanBus) (slot : Fin 8) (motor : Motor) :
    Decidable (At port bus slot motor) := inferInstanceAs (Decidable (_ ∧ _))

omit [DecidableEq Motor] in
/-- The motor of a slot after an event: the last that was initialized there.  A motor that is
destroyed takes whatever motor has its slot out of it, also if it was never initialized itself. -/
def register (port : Motor → MotorPort) (bus : CanBus) (slot : Fin 8) (there : Option Motor) :
    MotorEvent Motor → Option Motor
  | .initializeMotor motor => if At port bus slot motor then some motor else there
  | .destroy motor => if At port bus slot motor then none else there
  | .setDesiredOutput _ _ => there

/-- The output of a motor after an event. -/
def tell (motor : Motor) (output : DjiMotor) : MotorEvent Motor → DjiMotor
  | .setDesiredOutput other desiredOutput =>
    if other = motor then output.setDesiredOutput desiredOutput else output
  | _ => output

variable {port : Motor → MotorPort} {line line' : MotorLine Motor} {event : MotorEvent Motor}

omit [DecidableEq Motor] in
theorem addToStore_apply {store store' : MotorStore Motor} {motor : Motor} {slot : Fin 8}
    (h : addMotorToStore port store motor = some store') :
    store' slot =
      if normalizedId (port motor).motorIdentifier = slot.val then some motor else store slot := by
  unfold addMotorToStore at h
  dsimp only at h
  split_ifs at h with hid hfree
  obtain rfl := Option.some.inj h
  rw [Function.update_apply]
  exact if_congr (by rw [Fin.ext_iff, eq_comm]) rfl rfl

omit [DecidableEq Motor] in
theorem removeFromStore_apply (store : MotorStore Motor) (motor : Motor) (slot : Fin 8) :
    (removeFromStore port store motor).1 slot =
      if normalizedId (port motor).motorIdentifier = slot.val then none else store slot := by
  unfold removeFromStore
  by_cases hid : normalizedId (port motor).motorIdentifier < 8
  · have hslot : slot = ⟨normalizedId (port motor).motorIdentifier, hid⟩ ↔
        normalizedId (port motor).motorIdentifier = slot.val := by rw [Fin.ext_iff, eq_comm]
    by_cases hfree : (store ⟨normalizedId (port motor).motorIdentifier, hid⟩).isNone = true
    · simp only [dif_pos hid, if_pos hfree]
      split_ifs with heq
      · rw [hslot.2 heq]
        exact Option.isNone_iff_eq_none.1 hfree
      · rfl
    · simp only [dif_pos hid, if_neg hfree, Function.update_apply]
      exact if_congr hslot rfl rfl
  · have hne : ¬ normalizedId (port motor).motorIdentifier = slot.val := by omega
    rw [dif_neg hid, if_neg hne]

omit [DecidableEq Motor] in
/-- **The store of a bus after a motor is added**. -/
theorem addMotorToManager_apply {h h' : DjiMotorTxHandler Motor} {motor : Motor}
    (hadd : h.addMotorToManager port motor = some h') (bus : CanBus) (slot : Fin 8) :
    h'.motorStore bus slot =
      if At port bus slot motor then some motor else h.motorStore bus slot := by
  unfold addMotorToManager at hadd
  cases hbus : (port motor).motorCanBus with
  | CAN_BUS1 =>
    rw [hbus] at hadd
    obtain ⟨store, hstore, rfl⟩ := Option.map_eq_some_iff.1 hadd
    cases bus with
    | CAN_BUS1 =>
      exact (addToStore_apply hstore).trans (if_congr (by simp [At, hbus]) rfl rfl)
    | CAN_BUS2 => exact (if_neg (by simp [At, hbus])).symm
  | CAN_BUS2 =>
    rw [hbus] at hadd
    obtain ⟨store, hstore, rfl⟩ := Option.map_eq_some_iff.1 hadd
    cases bus with
    | CAN_BUS1 => exact (if_neg (by simp [At, hbus])).symm
    | CAN_BUS2 =>
      exact (addToStore_apply hstore).trans (if_congr (by simp [At, hbus]) rfl rfl)

omit [DecidableEq Motor] in
/-- **The store of a bus after a motor is removed**. -/
theorem removeFromMotorManager_apply (h : DjiMotorTxHandler Motor) (motor : Motor) (bus : CanBus)
    (slot : Fin 8) :
    (h.removeFromMotorManager port motor).1.motorStore bus slot =
      if At port bus slot motor then none else h.motorStore bus slot := by
  unfold removeFromMotorManager
  cases hbus : (port motor).motorCanBus with
  | CAN_BUS1 =>
    cases bus with
    | CAN_BUS1 =>
      exact (removeFromStore_apply _ motor slot).trans (if_congr (by simp [At, hbus]) rfl rfl)
    | CAN_BUS2 => exact (if_neg (by simp [At, hbus])).symm
  | CAN_BUS2 =>
    cases bus with
    | CAN_BUS1 => exact (if_neg (by simp [At, hbus])).symm
    | CAN_BUS2 =>
      exact (removeFromStore_apply _ motor slot).trans (if_congr (by simp [At, hbus]) rfl rfl)

omit [DecidableEq Motor] in
/-- The assertion holds exactly if the motor has a slot, and it is free. -/
theorem isSome_addMotorToManager {h : DjiMotorTxHandler Motor} {motor : Motor} :
    (h.addMotorToManager port motor).isSome = true ↔
      ∃ slot, At port (port motor).motorCanBus slot motor ∧
        h.motorStore (port motor).motorCanBus slot = none := by
  have hstore : ∀ store : MotorStore Motor, (addMotorToStore port store motor).isSome = true ↔
      ∃ slot : Fin 8, normalizedId (port motor).motorIdentifier = slot.val ∧ store slot = none := by
    intro store
    unfold addMotorToStore
    constructor
    · intro hsome
      dsimp only at hsome
      split_ifs at hsome with hid hfree
      · exact ⟨⟨_, hid⟩, rfl, Option.isNone_iff_eq_none.1 hfree⟩
      · exact absurd hsome Bool.false_ne_true
      · exact absurd hsome Bool.false_ne_true
    · rintro ⟨⟨id, hid⟩, heq, hfree⟩
      dsimp only at heq
      subst heq
      rw [dif_pos hid, hfree]
      rfl
  unfold addMotorToManager
  cases hbus : (port motor).motorCanBus with
  | CAN_BUS1 =>
    simpa [At, hbus, motorStore] using hstore h.can1MotorStore
  | CAN_BUS2 =>
    simpa [At, hbus, motorStore] using hstore h.can2MotorStore

/-- **One event**: what is in a slot. -/
theorem store_step (h : line.step port event = some line') (bus : CanBus) (slot : Fin 8) :
    line'.handler.motorStore bus slot =
      register port bus slot (line.handler.motorStore bus slot) event := by
  cases event with
  | initializeMotor motor =>
    obtain ⟨handler, hadd, rfl⟩ := Option.map_eq_some_iff.1 h
    exact addMotorToManager_apply hadd bus slot
  | destroy motor =>
    obtain rfl := Option.some.inj h
    exact removeFromMotorManager_apply line.handler motor bus slot
  | setDesiredOutput motor desiredOutput =>
    obtain rfl := Option.some.inj h
    rfl

theorem output_step (h : line.step port event = some line') (motor : Motor) :
    line'.output motor = tell motor (line.output motor) event := by
  cases event with
  | initializeMotor other =>
    obtain ⟨handler, -, rfl⟩ := Option.map_eq_some_iff.1 h
    rfl
  | destroy other =>
    obtain rfl := Option.some.inj h
    rfl
  | setDesiredOutput other desiredOutput =>
    obtain rfl := Option.some.inj h
    by_cases heq : other = motor
    · rw [heq]
      exact (Function.update_self ..).trans (if_pos rfl).symm
    · exact (Function.update_of_ne (Ne.symm heq) ..).trans (if_neg heq).symm

/-- What is in the slots, and the outputs, are those of the events. -/
theorem run_eq {events : List (MotorEvent Motor)}
    (hrun : events.foldlM (step port) line = some line') :
    (∀ bus slot, line'.handler.motorStore bus slot =
      events.foldl (register port bus slot) (line.handler.motorStore bus slot)) ∧
      ∀ motor, line'.output motor = events.foldl (tell motor) (line.output motor) := by
  induction events generalizing line with
  | nil =>
    obtain rfl := Option.some.inj hrun
    exact ⟨fun _ _ => rfl, fun _ => rfl⟩
  | cons event events ih =>
    rw [List.foldlM_cons] at hrun
    obtain ⟨next, hnext, hrest⟩ := Option.bind_eq_some_iff.1 hrun
    obtain ⟨hstore, houtput⟩ := ih hrest
    refine ⟨fun bus slot => ?_, fun motor => ?_⟩
    · rw [hstore, store_step hnext, List.foldl_cons]
    · rw [houtput, output_step hnext, List.foldl_cons]

omit [DecidableEq Motor] in
/-- Who is registered in a slot has it. -/
theorem at_register {bus : CanBus} {slot : Fin 8} {there : Option Motor}
    {events : List (MotorEvent Motor)} (hthere : ∀ motor ∈ there, At port bus slot motor) :
    ∀ motor ∈ events.foldl (register port bus slot) there, At port bus slot motor := by
  induction events generalizing there with
  | nil => exact hthere
  | cons event events ih =>
    refine ih fun motor hmotor => ?_
    cases event with
    | initializeMotor other =>
      simp only [register] at hmotor
      split_ifs at hmotor with hother
      · exact Option.some.inj hmotor ▸ hother
      · exact hthere motor hmotor
    | destroy other =>
      simp only [register] at hmotor
      split_ifs at hmotor with hother
      · exact absurd hmotor (Option.not_mem_none motor)
      · exact hthere motor hmotor
    | setDesiredOutput other desiredOutput => exact hthere motor hmotor

/-- **Where a motor is found over a run**: under its identifier, from the time it is initialized. -/
theorem getCanMotor_run (port : Motor → MotorPort) (isInverted : Motor → Bool)
    (events : List (MotorEvent Motor)) (line : MotorLine Motor)
    (hrun : events.foldlM (step port) (construct isInverted) = some line) (bus : CanBus)
    (motorId : UInt32) :
    line.handler.getCanMotor bus motorId =
      if hid : normalizedId motorId < 8 then
        events.foldl (register port bus ⟨normalizedId motorId, hid⟩) none
      else none := by
  have hempty : ∀ slot, (construct isInverted).handler.motorStore bus slot = none := by
    cases bus <;> exact fun _ => rfl
  rw [DjiMotorTxHandler.getCanMotor]
  split_ifs with hid
  · rw [(run_eq hrun).1, hempty]
  · rfl

/-- **What the motors are told over a run**: where the bus is ready and some motor of the half has
been registered, a slot reads the output of the motor that was initialized there last, which is the
last that it was told, or 0 if none was or a motor of that slot has been destroyed since. -/
theorem heard_run (port : Motor → MotorPort) (isInverted : Motor → Bool)
    (events : List (MotorEvent Motor)) (line : MotorLine Motor)
    (hrun : events.foldlM (step port) (construct isInverted) = some line)
    (isReadyToSend : CanBus → Bool) (sendMessage : CanBus → CanMessage → Bool) (bus : CanBus)
    (slot : Fin 8) :
    heard (line.handler.encodeAndSendCanData port line.output isReadyToSend sendMessage).1 bus
      slot =
      if isReadyToSend bus = true ∧ ∃ other, isHigh other = isHigh slot ∧
          (events.foldl (register port bus other) none).isSome then
        [(events.foldl (register port bus slot) none).elim 0 fun motor =>
          (events.foldl (tell motor) ⟨isInverted motor, 0⟩).getOutputDesired]
      else [] := by
  obtain ⟨hstore, houtput⟩ := run_eq hrun
  have hempty : ∀ bus slot, (construct isInverted).handler.motorStore bus slot = none := by
    intro bus slot
    cases bus <;> rfl
  simp only [hempty] at hstore
  have hplaced : ∀ bus, Placed port (line.handler.motorStore bus) := by
    intro bus slot motor hmotor
    rw [hstore] at hmotor
    have hthere : ∀ motor ∈ (none : Option Motor), At port bus slot motor := by simp
    exact (at_register hthere motor hmotor).2
  have hany : anyIn (line.handler.motorStore bus) (isHigh slot) = true ↔
      ∃ other, isHigh other = isHigh slot ∧
        (events.foldl (register port bus other) none).isSome = true := by
    simp [anyIn, hstore]
  rw [heard_encodeAndSendCanData hplaced]
  refine if_congr ?_ ?_ rfl
  · rw [Bool.and_eq_true, hany]
  · rw [hstore]
    simp only [houtput]
    rfl

/-- Four motors: two of the first bus in one half, one of the second half, and one of the other
bus. -/
def fourPorts (motor : Fin 4) : MotorPort :=
  #v[⟨0x201, .CAN_BUS1⟩, ⟨0x203, .CAN_BUS1⟩, ⟨0x207, .CAN_BUS1⟩, ⟨0x201, .CAN_BUS2⟩][motor]

/-- The second motor is destroyed, and the first turns the other way round. -/
def fourEvents : List (MotorEvent (Fin 4)) :=
  [.initializeMotor 0, .initializeMotor 1, .setDesiredOutput 0 40000, .initializeMotor 2,
    .setDesiredOutput 1 300, .initializeMotor 3, .destroy 1]

/-- The motors after these events. -/
def fourLine : MotorLine (Fin 4) :=
  (fourEvents.foldlM (step fourPorts) (construct (decide <| · = 0))).get (by decide +kernel)

theorem heard_run_four :
    heard (fourLine.handler.encodeAndSendCanData fourPorts fourLine.output (fun _ => true)
        fun _ _ => true).1 .CAN_BUS1 0 = [-32767] ∧
      heard (fourLine.handler.encodeAndSendCanData fourPorts fourLine.output (fun _ => true)
        fun _ _ => true).1 .CAN_BUS1 2 = [0] := by
  have hrun : fourEvents.foldlM (step fourPorts) (construct (decide <| · = 0)) = some fourLine :=
    (Option.some_get _).symm
  constructor
  · rw [heard_run fourPorts (decide <| · = 0) fourEvents fourLine hrun]
    decide
  · rw [heard_run fourPorts (decide <| · = 0) fourEvents fourLine hrun]
    decide

end MotorLine

end Aimbots.Tap
