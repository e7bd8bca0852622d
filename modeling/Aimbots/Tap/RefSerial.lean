import Aimbots.Library.Run
import Aimbots.Library.UnorderedMap
import Aimbots.Tap.BoundedDeque
import Aimbots.Tap.DjiSerialReceiver
import Aimbots.Tap.Timeout
import Mathlib.Algebra.BigOperators.Group.List.Basic
import Mathlib.Algebra.Order.Ring.Rat
import Mathlib.Tactic.Linarith
import Mathlib.Tactic.Ring

/-!
# `ref_serial.cpp`

`messageReceiveCallback` decodes the messages of the referee system: each is taken only with the
length that its type has.  From the health points of the robot it keeps the damage of the last
second, in a deque of `DPS_TRACKER_DEQUE_SIZE` events and as a running sum.

The line counts as receiving until the last message expires (`getRefSerialReceivingData_after`).
When damage arrives while the deque is full, its newest event is removed and not taken off the sum:
`receivedDps_eq` says what the sum is after any messages, and `receivedDps_eq_window` that it is the
damage of the last second as long as this does not happen.
-/

namespace Aimbots.Tap

open Run (after Each)

/-- `DPS_TRACKER_DEQUE_SIZE`. -/
abbrev DPS_TRACKER_DEQUE_SIZE : ℕ := 20

/-- `TIME_OFFLINE_REF_DATA_MS`. -/
def TIME_OFFLINE_REF_DATA_MS : UInt32 := 1000

/-- `REF_MESSAGE_TYPE_GAME_STATUS`. -/
def REF_MESSAGE_TYPE_GAME_STATUS : UInt16 := 0x1

/-- `REF_MESSAGE_TYPE_ROBOT_STATUS`. -/
def REF_MESSAGE_TYPE_ROBOT_STATUS : UInt16 := 0x201

/-- `REF_MESSAGE_TYPE_POWER_AND_HEAT`. -/
def REF_MESSAGE_TYPE_POWER_AND_HEAT : UInt16 := 0x202

/-- `REF_MESSAGE_TYPE_RECEIVE_DAMAGE`. -/
def REF_MESSAGE_TYPE_RECEIVE_DAMAGE : UInt16 := 0x206

/-- `REF_MESSAGE_TYPE_CUSTOM_DATA`. -/
def REF_MESSAGE_TYPE_CUSTOM_DATA : UInt16 := 0x301

/-- `DamageEvent`. -/
structure DamageEvent where
  damageAmount : UInt16
  timestampMs : UInt32
deriving DecidableEq, Repr

/-- The part of `RobotData` that the messages above fill. -/
structure RobotData where
  robotId : UInt16
  robotLevel : UInt8
  previousHp : UInt16
  currentHp : UInt16
  maxHp : UInt16
  coolingRate : UInt16
  heatLimit : UInt16
  heat17ID1 : UInt16
  heat17ID2 : UInt16
  heat42 : UInt16
  powerConsumptionLimit : UInt16
  powerBuffer : UInt16
  robotPower : UInt8
  damagedArmorId : UInt8
  damageType : UInt8
  receivedDps : ℚ
  robotDataReceivedTimestamp : UInt32

/-- The part of `GameData` that the messages above fill. -/
structure GameData where
  gameType : UInt8
  gameStage : UInt8
  stageTimeRemaining : UInt16

/-- `RefSerial`, without its `DJISerial`; `H` are the handlers. -/
structure RefSerial (H : Type*) where
  robotData : RobotData
  gameData : GameData
  receivedDpsTracker : BoundedDeque DamageEvent DPS_TRACKER_DEQUE_SIZE
  refSerialOfflineTimeout : Timeout
  msgIdToRobotToRobotHandlerMap : UnorderedMap UInt16 H

namespace RefSerial

variable {H : Type*}

/-- `message.data[i]`. -/
def dataByte (message : ReceivedSerialMessage) (i : ℕ) : UInt8 := message.getD (7 + i) 0

/-- `convertFromLittleEndian` from `message.data + i` into a `uint16_t`. -/
def dataWord (message : ReceivedSerialMessage) (i : ℕ) : UInt16 :=
  uint16OfBytes (dataByte message i) (dataByte message (i + 1))

/-- `message.messageType`. -/
def messageType (message : ReceivedSerialMessage) : UInt16 :=
  uint16OfBytes (message.getD 5 0) (message.getD 6 0)

/-- `getRefSerialReceivingData`. -/
def getRefSerialReceivingData (s : RefSerial H) (now : UInt32) : Bool :=
  !(s.refSerialOfflineTimeout.isStopped || s.refSerialOfflineTimeout.isExpired now)

/-! ### Damage -/

/-- The loop of `updateReceivedDamage`, which goes around once for each event at most. -/
def expireDamage (now : UInt32) : ℕ → RefSerial H → RefSerial H
  | 0, s => s
  | fuel + 1, s =>
    if 0 < s.receivedDpsTracker.size ∧ s.receivedDpsTracker.getFront.timestampMs + 1000 < now then
      expireDamage now fuel
        { s with
          robotData := { s.robotData with
            receivedDps := s.robotData.receivedDps -
              s.receivedDpsTracker.getFront.damageAmount.toNat }
          receivedDpsTracker := s.receivedDpsTracker.removeFront }
    else s

/-- `updateReceivedDamage`. -/
def updateReceivedDamage (s : RefSerial H) (now : UInt32) : RefSerial H :=
  expireDamage now s.receivedDpsTracker.size s

/-- `processReceivedDamage`. -/
def processReceivedDamage (s : RefSerial H) (timestamp : UInt32) (damageTaken : ℤ) : RefSerial H :=
  if 0 < damageTaken then
    let damageEvent : DamageEvent := ⟨UInt16.ofNat damageTaken.toNat, timestamp⟩
    let tracker := if s.receivedDpsTracker.size = DPS_TRACKER_DEQUE_SIZE then
      s.receivedDpsTracker.removeBack else s.receivedDpsTracker
    { s with
      robotData := { s.robotData with receivedDps := s.robotData.receivedDps + damageTaken }
      receivedDpsTracker := tracker.append damageEvent }
  else s

/-! ### Messages -/

/-- `decodeToGameStatus`, up to the time of the server. -/
def decodeToGameStatus (s : RefSerial H) (message : ReceivedSerialMessage) : RefSerial H :=
  if DJISerial.dataLength message ≠ 11 then s
  else
    { s with gameData :=
      { gameType := dataByte message 0 &&& 0xf
        gameStage := (dataByte message 0 >>> 4) &&& 0xf
        stageTimeRemaining := dataWord message 1 } }

/-- `decodeToRobotStatus`. -/
def decodeToRobotStatus (s : RefSerial H) (now : UInt32) (message : ReceivedSerialMessage) :
    RefSerial H :=
  if DJISerial.dataLength message ≠ 13 then s
  else
    let s := { s with robotData := { s.robotData with
      robotId := (dataByte message 0).toUInt16
      robotLevel := dataByte message 1
      currentHp := dataWord message 2
      maxHp := dataWord message 4
      coolingRate := dataWord message 6
      heatLimit := dataWord message 8
      powerConsumptionLimit := dataWord message 10
      robotPower := dataByte message 12 &&& 0b111
      robotDataReceivedTimestamp := now } }
    let s := s.processReceivedDamage s.robotData.robotDataReceivedTimestamp
      (s.robotData.previousHp.toNat - s.robotData.currentHp.toNat)
    { s with robotData := { s.robotData with previousHp := s.robotData.currentHp } }

/-- `decodeToPowerAndHeat`, without what `chassis` measures. -/
def decodeToPowerAndHeat (s : RefSerial H) (message : ReceivedSerialMessage) : RefSerial H :=
  if DJISerial.dataLength message ≠ 16 then s
  else
    { s with robotData := { s.robotData with
      powerBuffer := dataWord message 8
      heat17ID1 := dataWord message 10
      heat17ID2 := dataWord message 12
      heat42 := dataWord message 14 } }

/-- `decodeToDamageStatus`. -/
def decodeToDamageStatus (s : RefSerial H) (message : ReceivedSerialMessage) : RefSerial H :=
  if DJISerial.dataLength message ≠ 1 then s
  else
    { s with robotData := { s.robotData with
      damagedArmorId := dataByte message 0 &&& 0xf
      damageType := (dataByte message 0 >>> 4) &&& 0xf } }

/-- `handleRobotToRobotCommunication`: the handler that is called with the message. -/
def handleRobotToRobotCommunication (s : RefSerial H) (message : ReceivedSerialMessage) :
    Option H :=
  if DJISerial.dataLength message < 6 then none
  else s.msgIdToRobotToRobotHandlerMap.find? (dataWord message 0)

/-- `attachRobotToRobotMessageHandler`; `none` is an error, after which nothing is attached. -/
def attachRobotToRobotMessageHandler (s : RefSerial H) (msgId : UInt16) (handler : H) :
    Option (RefSerial H) :=
  if (s.msgIdToRobotToRobotHandlerMap.find? msgId).isSome ∨ msgId < 0x0200 ∨
      0x02ff < msgId then none
  else
    some { s with
      msgIdToRobotToRobotHandlerMap := s.msgIdToRobotToRobotHandlerMap.set msgId handler }

/-- What `messageReceiveCallback` does for a message of any type. -/
def received (s : RefSerial H) (now : UInt32) : RefSerial H :=
  updateReceivedDamage { s with
    refSerialOfflineTimeout := s.refSerialOfflineTimeout.restart now TIME_OFFLINE_REF_DATA_MS } now

/-- `messageReceiveCallback`, and the handler that it calls.  Messages of the other types fill other
fields. -/
def messageReceiveCallback (s : RefSerial H) (now : UInt32) (message : ReceivedSerialMessage) :
    RefSerial H × Option H :=
  let s := s.received now
  if messageType message = REF_MESSAGE_TYPE_GAME_STATUS then (s.decodeToGameStatus message, none)
  else if messageType message = REF_MESSAGE_TYPE_ROBOT_STATUS then
    (s.decodeToRobotStatus now message, none)
  else if messageType message = REF_MESSAGE_TYPE_POWER_AND_HEAT then
    (s.decodeToPowerAndHeat message, none)
  else if messageType message = REF_MESSAGE_TYPE_RECEIVE_DAMAGE then
    (s.decodeToDamageStatus message, none)
  else if messageType message = REF_MESSAGE_TYPE_CUSTOM_DATA then
    (s, s.handleRobotToRobotCommunication message)
  else (s, none)

/-! ### The tracker -/

/-- The damage of some events. -/
def damageOf (events : List DamageEvent) : ℚ :=
  (events.map fun event => (event.damageAmount.toNat : ℚ)).sum

/-- What a message finds expired. -/
def expired (now : UInt32) (event : DamageEvent) : Bool := decide (event.timestampMs + 1000 < now)

/-- The sum and the deque are replaced. -/
def withDamage (s : RefSerial H) (dps : ℚ)
    (tracker : BoundedDeque DamageEvent DPS_TRACKER_DEQUE_SIZE) : RefSerial H :=
  { s with robotData := { s.robotData with receivedDps := dps }, receivedDpsTracker := tracker }

variable {s : RefSerial H} {now : UInt32} {message : ReceivedSerialMessage}

@[simp] theorem damageOf_nil : damageOf [] = 0 := rfl

theorem damageOf_cons (event : DamageEvent) (events : List DamageEvent) :
    damageOf (event :: events) = event.damageAmount.toNat + damageOf events := List.sum_cons

theorem damageOf_append (events events' : List DamageEvent) :
    damageOf (events ++ events') = damageOf events + damageOf events' := by
  rw [damageOf, List.map_append, List.sum_append]
  rfl

theorem damageOf_nonneg (events : List DamageEvent) : 0 ≤ damageOf events := by
  induction events with
  | nil => exact le_refl 0
  | cons event events ih =>
    rw [damageOf_cons]
    exact add_nonneg (Nat.cast_nonneg _) ih

theorem expireDamage_spec (fuel : ℕ) (h : s.receivedDpsTracker.IsQueue)
    (hfuel : s.receivedDpsTracker.size ≤ fuel) : ∃ dps tracker,
    expireDamage now fuel s = s.withDamage dps tracker ∧ tracker.IsQueue ∧
    tracker.contents = s.receivedDpsTracker.contents.dropWhile (expired now) ∧
    dps - damageOf tracker.contents =
      s.robotData.receivedDps - damageOf s.receivedDpsTracker.contents := by
  induction fuel generalizing s with
  | zero =>
    have hnil : s.receivedDpsTracker.contents = [] := by
      rw [← List.length_eq_zero_iff, BoundedDeque.length_contents]
      exact Nat.le_zero.1 hfuel
    exact ⟨_, _, rfl, h, by rw [hnil]; rfl, rfl⟩
  | succ fuel ih =>
    rw [expireDamage]
    split_ifs with hexpired
    · obtain ⟨hqueue, hcontents⟩ := h.removeFront hexpired.1
      obtain ⟨dps, tracker, heq, hqueue', hdrop, hsum⟩ := ih
        (s := s.withDamage (s.robotData.receivedDps -
          s.receivedDpsTracker.getFront.damageAmount.toNat) s.receivedDpsTracker.removeFront)
        hqueue (Nat.sub_le_of_le_add hfuel)
      refine ⟨dps, tracker, heq, hqueue', ?_, ?_⟩
      · have hfront : expired now s.receivedDpsTracker.getFront = true :=
          decide_eq_true hexpired.2
        rw [hdrop, hcontents, List.dropWhile_cons_of_pos hfront]
        rfl
      · rw [hsum, hcontents, damageOf_cons]
        simp only [withDamage]
        ring
    · refine ⟨_, _, rfl, h, ?_, rfl⟩
      by_cases hsize : 0 < s.receivedDpsTracker.size
      · obtain ⟨-, hcontents⟩ := h.removeFront hsize
        rw [hcontents, List.dropWhile_cons_of_neg]
        simpa [expired] using fun hlt => hexpired ⟨hsize, hlt⟩
      · have hnil : s.receivedDpsTracker.contents = [] := by
          rw [← List.length_eq_zero_iff, BoundedDeque.length_contents]
          omega
        rw [hnil]
        rfl

/-- **`updateReceivedDamage`** removes the events in front that have expired, and takes them off the
sum. -/
theorem updateReceivedDamage_spec (h : s.receivedDpsTracker.IsQueue) (now : UInt32) : ∃ dps tracker,
    s.updateReceivedDamage now = s.withDamage dps tracker ∧ tracker.IsQueue ∧
    tracker.contents = s.receivedDpsTracker.contents.dropWhile (expired now) ∧
    dps - damageOf tracker.contents =
      s.robotData.receivedDps - damageOf s.receivedDpsTracker.contents :=
  expireDamage_spec _ h (le_refl _)

/-- **`processReceivedDamage`** appends an event, and adds it to the sum; if the deque is full, its
newest event gives way, and stays in the sum. -/
theorem processReceivedDamage_spec (h : s.receivedDpsTracker.IsQueue) (now : UInt32)
    {damageTaken : ℤ} (hpos : 0 < damageTaken) : ∃ tracker,
    s.processReceivedDamage now damageTaken =
      s.withDamage (s.robotData.receivedDps + damageTaken) tracker ∧ tracker.IsQueue ∧
    tracker.contents = (if s.receivedDpsTracker.size = DPS_TRACKER_DEQUE_SIZE then
        s.receivedDpsTracker.contents.dropLast else s.receivedDpsTracker.contents) ++
      [⟨UInt16.ofNat damageTaken.toNat, now⟩] := by
  have hsize := h.size_le
  rw [processReceivedDamage, if_pos hpos]
  by_cases hfull : s.receivedDpsTracker.size = DPS_TRACKER_DEQUE_SIZE
  · obtain ⟨hqueue, hcontents⟩ := h.removeBack (by rw [hfull]; decide)
    have hroom : s.receivedDpsTracker.removeBack.size < DPS_TRACKER_DEQUE_SIZE := by
      show s.receivedDpsTracker.size - 1 < DPS_TRACKER_DEQUE_SIZE
      rw [hfull]
      decide
    obtain ⟨hqueue', hcontents'⟩ :=
      hqueue.append hroom (⟨UInt16.ofNat damageTaken.toNat, now⟩ : DamageEvent)
    refine ⟨_, ?_, hqueue', ?_⟩
    · simp only [if_pos hfull]
      rfl
    · rw [hcontents', if_pos hfull, hcontents, List.dropLast_concat]
  · obtain ⟨hqueue', hcontents'⟩ := h.append (by omega)
      (⟨UInt16.ofNat damageTaken.toNat, now⟩ : DamageEvent)
    refine ⟨_, ?_, hqueue', ?_⟩
    · simp only [if_neg hfull]
      rfl
    · rw [hcontents', if_neg hfull]

/-! ### One message -/

/-- The damage that a message reports. -/
def damageTaken (s : RefSerial H) (message : ReceivedSerialMessage) : ℤ :=
  if messageType message = REF_MESSAGE_TYPE_ROBOT_STATUS ∧ DJISerial.dataLength message = 13 then
    s.robotData.previousHp.toNat - (dataWord message 2).toNat
  else 0

/-- The events that are left in the deque when a message has been looked at. -/
def remaining (now : UInt32) (events : List DamageEvent) : List DamageEvent :=
  events.dropWhile (expired now)

/-- The event that gives way to the damage of a message. -/
def evicted (now : UInt32) (damage : ℤ) (events : List DamageEvent) : List DamageEvent :=
  if 0 < damage ∧ (remaining now events).length = DPS_TRACKER_DEQUE_SIZE then
    (remaining now events).drop (DPS_TRACKER_DEQUE_SIZE - 1)
  else []

/-- The events after a message. -/
def track (now : UInt32) (damage : ℤ) (events : List DamageEvent) : List DamageEvent :=
  if 0 < damage then
    (if (remaining now events).length = DPS_TRACKER_DEQUE_SIZE then (remaining now events).dropLast
      else remaining now events) ++ [⟨UInt16.ofNat damage.toNat, now⟩]
  else remaining now events

/-- The events that a state has in its deque. -/
def events (s : RefSerial H) : List DamageEvent := s.receivedDpsTracker.contents

/-- The deque is a queue, and the sum is that of its events and of those that gave way. -/
structure Inv (lost : ℚ) (s : RefSerial H) : Prop where
  isQueue : s.receivedDpsTracker.IsQueue
  receivedDps : s.robotData.receivedDps = damageOf s.events + lost

theorem toNat_damageTaken {s : RefSerial H} (h : 0 < damageTaken s message) :
    ((UInt16.ofNat (damageTaken s message).toNat).toNat : ℚ) = (damageTaken s message : ℚ) := by
  have hle : damageTaken s message ≤ 65535 := by
    have hprev := s.robotData.previousHp.toNat_lt
    rw [damageTaken]
    split_ifs <;> omega
  have hword : (UInt16.ofNat (damageTaken s message).toNat).toNat =
      (damageTaken s message).toNat := by
    rw [UInt16.toNat_ofNat']
    omega
  rw [hword]
  exact_mod_cast Int.toNat_of_nonneg h.le

theorem damageOf_remaining_eq (now : UInt32) (events : List DamageEvent) {damage : ℤ}
    (hpos : 0 < damage) :
    damageOf (remaining now events) =
      damageOf (if (remaining now events).length = DPS_TRACKER_DEQUE_SIZE then
        (remaining now events).dropLast else remaining now events) +
          damageOf (evicted now damage events) := by
  by_cases hfull : (remaining now events).length = DPS_TRACKER_DEQUE_SIZE
  · rw [if_pos hfull, evicted, if_pos ⟨hpos, hfull⟩, List.dropLast_eq_take, hfull,
      ← damageOf_append,
      List.take_append_drop]
  · rw [if_neg hfull, evicted, if_neg fun h => hfull h.2, damageOf_nil, add_zero]

/-- The status of the robot: damage is added, whatever else the message says. -/
theorem decodeToRobotStatus_spec (h : s.receivedDpsTracker.IsQueue) (now : UInt32)
    (htype : messageType message = REF_MESSAGE_TYPE_ROBOT_STATUS) :
    (s.decodeToRobotStatus now message).receivedDpsTracker.IsQueue ∧
      (s.decodeToRobotStatus now message).events =
        (if 0 < damageTaken s message then
          (if s.events.length = DPS_TRACKER_DEQUE_SIZE then s.events.dropLast else s.events) ++
            [⟨UInt16.ofNat (damageTaken s message).toNat, now⟩]
        else s.events) ∧
      (s.decodeToRobotStatus now message).robotData.receivedDps =
        s.robotData.receivedDps + if 0 < damageTaken s message then (damageTaken s message : ℚ)
          else 0 := by
  by_cases hlength : DJISerial.dataLength message = 13
  · have hdamage : damageTaken s message =
        s.robotData.previousHp.toNat - (dataWord message 2).toNat := if_pos ⟨htype, hlength⟩
    rw [decodeToRobotStatus, if_neg (not_not.2 hlength), hdamage]
    by_cases hpos : (0 : ℤ) < s.robotData.previousHp.toNat - (dataWord message 2).toNat
    · rw [if_pos hpos, if_pos hpos]
      obtain ⟨tracker, heq, hqueue, hcontents⟩ := processReceivedDamage_spec
        (s := { s with robotData := { s.robotData with
          robotId := (dataByte message 0).toUInt16
          robotLevel := dataByte message 1
          currentHp := dataWord message 2
          maxHp := dataWord message 4
          coolingRate := dataWord message 6
          heatLimit := dataWord message 8
          powerConsumptionLimit := dataWord message 10
          robotPower := dataByte message 12 &&& 0b111
          robotDataReceivedTimestamp := now } }) h now hpos
      simp only [heq]
      refine ⟨hqueue, ?_, rfl⟩
      rw [events, ← BoundedDeque.length_contents] at *
      exact hcontents
    · rw [if_neg hpos, if_neg hpos, add_zero]
      simp only [processReceivedDamage, if_neg hpos, and_true]
      exact ⟨h, rfl⟩
  · have hdamage : damageTaken s message = 0 := if_neg fun hmessage => hlength hmessage.2
    rw [decodeToRobotStatus, if_pos hlength, hdamage, if_neg (lt_irrefl 0), if_neg (lt_irrefl 0),
      add_zero]
    exact ⟨h, rfl, rfl⟩

/-- Every other message leaves the events and the sum as they are. -/
theorem messageReceiveCallback_other (s : RefSerial H) (now : UInt32)
    (htype : messageType message ≠ REF_MESSAGE_TYPE_ROBOT_STATUS) :
    (s.messageReceiveCallback now message).1.receivedDpsTracker =
        (s.received now).receivedDpsTracker ∧
      (s.messageReceiveCallback now message).1.robotData.receivedDps =
        (s.received now).robotData.receivedDps := by
  simp only [messageReceiveCallback, if_neg htype, decodeToGameStatus, decodeToPowerAndHeat,
    decodeToDamageStatus]
  split_ifs <;> exact ⟨rfl, rfl⟩

theorem received_spec (h : s.receivedDpsTracker.IsQueue) (now : UInt32)
    (message : ReceivedSerialMessage) :
    (s.received now).receivedDpsTracker.IsQueue ∧
      (s.received now).events = remaining now s.events ∧
      (s.received now).robotData.receivedDps - damageOf (remaining now s.events) =
        s.robotData.receivedDps - damageOf s.events ∧
      damageTaken (s.received now) message = damageTaken s message := by
  obtain ⟨dps, tracker, heq, hqueue, hcontents, hsum⟩ := updateReceivedDamage_spec
    (s := { s with refSerialOfflineTimeout :=
      s.refSerialOfflineTimeout.restart now TIME_OFFLINE_REF_DATA_MS }) h now
  have hevents : tracker.contents = remaining now s.events := hcontents
  rw [hevents] at hsum
  rw [received, heq]
  exact ⟨hqueue, hevents, hsum, rfl⟩

/-- **One message**: what it does to the events and to the sum. -/
theorem messageReceiveCallback_spec {lost : ℚ} (h : s.Inv lost) (now : UInt32)
    (message : ReceivedSerialMessage) :
    (s.messageReceiveCallback now message).1.Inv
        (lost + damageOf (evicted now (damageTaken s message) s.events)) ∧
      (s.messageReceiveCallback now message).1.events =
        track now (damageTaken s message) s.events := by
  obtain ⟨hqueue, hevents, hsum, hdamage⟩ := received_spec h.isQueue now message
  have hdps := h.receivedDps
  by_cases htype : messageType message = REF_MESSAGE_TYPE_ROBOT_STATUS
  · have hcall : (s.messageReceiveCallback now message).1 =
        (s.received now).decodeToRobotStatus now message := by
      rw [messageReceiveCallback]
      simp only [htype]
      rfl
    obtain ⟨hqueue', hevents', hdps'⟩ := decodeToRobotStatus_spec hqueue now htype
    rw [hdamage, hevents] at hevents'
    rw [hdamage] at hdps'
    rw [hcall]
    have htrack : ((s.received now).decodeToRobotStatus now message).events =
        track now (damageTaken s message) s.events := hevents'
    refine ⟨⟨hqueue', ?_⟩, htrack⟩
    rw [hdps', htrack, track]
    by_cases hpos : 0 < damageTaken s message
    · have hsplit := damageOf_remaining_eq now s.events hpos
      rw [if_pos hpos, if_pos hpos, damageOf_append, damageOf_cons, damageOf_nil,
        toNat_damageTaken hpos]
      linarith
    · rw [if_neg hpos, if_neg hpos, evicted, if_neg fun hfull => hpos hfull.1, damageOf_nil]
      linarith
  · obtain ⟨htracker, hdps'⟩ := messageReceiveCallback_other s now htype
    have hnone : damageTaken s message = 0 := if_neg fun hmessage => htype hmessage.1
    have htrack : (s.messageReceiveCallback now message).1.events =
        track now (damageTaken s message) s.events := by
      rw [events, htracker, hnone, track, if_neg (lt_irrefl 0)]
      exact hevents
    refine ⟨⟨htracker ▸ hqueue, ?_⟩, htrack⟩
    rw [hdps', htrack, hnone, track, evicted, if_neg (lt_irrefl 0),
      if_neg fun hfull => lt_irrefl 0 hfull.1, damageOf_nil]
    linarith

/-! ### Runs -/

/-- A message and the time at which it has been read. -/
structure Call where
  now : UInt32
  message : ReceivedSerialMessage

/-- A call of the callback. -/
def next (s : RefSerial H) (c : Call) : RefSerial H := (s.messageReceiveCallback c.now c.message).1

/-- The damage that gave way during some calls. -/
def lostDamage (s : RefSerial H) : List Call → ℚ
  | [] => 0
  | c :: calls => damageOf (evicted c.now (damageTaken s c.message) s.events) +
      lostDamage (s.next c) calls

/-- The constructor; the buffer of the deque is what the memory held. -/
def construct (buffer : Fin DPS_TRACKER_DEQUE_SIZE → DamageEvent) : RefSerial H where
  robotData := ⟨0, 0, 0, 0, 0, 0, 0, 0, 0, 0, 0, 0, 0, 0, 0, 0, 0⟩
  gameData := ⟨0, 0, 0⟩
  receivedDpsTracker := .construct buffer
  refSerialOfflineTimeout := .stopped
  msgIdToRobotToRobotHandlerMap := .empty

variable {lost : ℚ} {calls : List Call} {buffer : Fin DPS_TRACKER_DEQUE_SIZE → DamageEvent}

theorem inv_construct (buffer : Fin DPS_TRACKER_DEQUE_SIZE → DamageEvent) :
    (construct buffer : RefSerial H).Inv 0 :=
  ⟨BoundedDeque.isQueue_construct buffer, (add_zero (0 : ℚ)).symm⟩

theorem Inv.after (h : s.Inv lost) (calls : List Call) :
    (Run.after next s calls).Inv (lost + lostDamage s calls) := by
  induction calls generalizing s lost with
  | nil => simpa [lostDamage] using h
  | cons c calls ih =>
    have hnext := ih (messageReceiveCallback_spec h c.now c.message).1
    rwa [add_assoc] at hnext

theorem lostDamage_nonneg (s : RefSerial H) (calls : List Call) : 0 ≤ lostDamage s calls := by
  induction calls generalizing s with
  | nil => exact le_refl 0
  | cons c calls ih => exact add_nonneg (damageOf_nonneg _) (ih _)

/-- **`receivedDps` after any messages** is the damage of the events in the deque and of those that
gave way; and what gave way stays in it, whatever messages follow. -/
theorem receivedDps_eq (calls more : List Call) :
    (Run.after next (construct buffer : RefSerial H) calls).robotData.receivedDps =
        damageOf (Run.after next (construct buffer : RefSerial H) calls).events +
          lostDamage (construct buffer : RefSerial H) calls ∧
      lostDamage (construct buffer : RefSerial H) calls ≤
        (Run.after next (construct buffer : RefSerial H)
          (calls ++ more)).robotData.receivedDps := by
  have hinv := (inv_construct (H := H) buffer).after calls
  rw [zero_add] at hinv
  have hmore := hinv.after more
  rw [← Run.after_append] at hmore
  refine ⟨hinv.receivedDps, ?_⟩
  rw [hmore.receivedDps]
  have hevents := damageOf_nonneg
    (Run.after next (construct buffer : RefSerial H) (calls ++ more)).events
  have hlost := lostDamage_nonneg (Run.after next (construct buffer : RefSerial H) calls) more
  linarith

/-! ### The line -/

/-- Every message sets the timer of the line again. -/
theorem refSerialOfflineTimeout_next (s : RefSerial H) (c : Call) :
    (s.next c).refSerialOfflineTimeout =
      s.refSerialOfflineTimeout.restart c.now TIME_OFFLINE_REF_DATA_MS := by
  have hexpire : ∀ (fuel : ℕ) (s : RefSerial H),
      (expireDamage c.now fuel s).refSerialOfflineTimeout = s.refSerialOfflineTimeout := by
    intro fuel
    induction fuel with
    | zero => exact fun s => rfl
    | succ fuel ih =>
      intro s
      rw [expireDamage]
      split_ifs
      · exact ih _
      · rfl
  have hreceived : (s.received c.now).refSerialOfflineTimeout =
      s.refSerialOfflineTimeout.restart c.now TIME_OFFLINE_REF_DATA_MS := hexpire _ _
  have hprocess : ∀ (s : RefSerial H) (now : UInt32) (damageTaken : ℤ),
      (s.processReceivedDamage now damageTaken).refSerialOfflineTimeout =
        s.refSerialOfflineTimeout := by
    intro s now damageTaken
    rw [processReceivedDamage]
    split_ifs <;> rfl
  rw [next, messageReceiveCallback, ← hreceived]
  split_ifs
  · rw [decodeToGameStatus]
    split_ifs <;> rfl
  · rw [decodeToRobotStatus]
    split_ifs
    · rfl
    · exact hprocess _ _ _
  · rw [decodeToPowerAndHeat]
    split_ifs <;> rfl
  · rw [decodeToDamageStatus]
    split_ifs <;> rfl
  · rfl
  · rfl

/-- **When the line counts as receiving**: before the time at which the last message expires, and
never before the first one. -/
theorem getRefSerialReceivingData_after (calls : List Call) (now : UInt32) :
    (Run.after next (construct buffer : RefSerial H) calls).getRefSerialReceivingData now =
      calls.getLast?.any fun c => decide (now < c.now + TIME_OFFLINE_REF_DATA_MS) := by
  rcases List.eq_nil_or_concat' calls with rfl | ⟨calls, c, rfl⟩
  · rfl
  · rw [Run.after_append, List.getLast?_concat, Run.after_cons, Run.after_nil,
      getRefSerialReceivingData, refSerialOfflineTimeout_next, Option.any_some, Bool.eq_iff_iff,
      decide_eq_true_iff, Bool.not_eq_true', Bool.or_eq_false_iff, ← UInt32.not_le,
      ← Bool.not_eq_true (Timeout.isExpired _ _), Timeout.isExpired_iff, not_and]
    exact ⟨fun h => h.2 rfl, fun h => ⟨rfl, fun _ => h⟩⟩

/-! ### The last second -/

/-- The damage that some messages have reported. -/
def history (s : RefSerial H) : List Call → List DamageEvent
  | [] => []
  | c :: calls => (if 0 < damageTaken s c.message then
      [⟨UInt16.ofNat (damageTaken s c.message).toNat, c.now⟩] else []) ++ history (s.next c) calls

/-- Damage that is not older than a second. -/
def recent (now : UInt32) (event : DamageEvent) : Bool :=
  decide (now.toNat ≤ event.timestampMs.toNat + 1000)

/-- A message that does not report damage while the deque is full. -/
def Fits (s : RefSerial H) (c : Call) : Prop :=
  0 < damageTaken s c.message → (remaining c.now s.events).length < DPS_TRACKER_DEQUE_SIZE

instance (s : RefSerial H) (c : Call) : Decidable (s.Fits c) := inferInstanceAs (Decidable (_ → _))

/-- The clock does not go back, and is not about to overflow. -/
def ClockRuns (last : UInt32) : List Call → Prop
  | [] => True
  | c :: calls => last ≤ c.now ∧ c.now.toNat + 1000 < UInt32.size ∧ ClockRuns c.now calls

instance decidableClockRuns : ∀ last calls, Decidable (ClockRuns last calls)
  | _, [] => isTrue trivial
  | last, c :: calls =>
    have : Decidable (ClockRuns c.now calls) := decidableClockRuns c.now calls
    inferInstanceAs (Decidable (last ≤ c.now ∧ c.now.toNat + 1000 < UInt32.size ∧
      ClockRuns c.now calls))

/-- The deque has what is recent of a history in the order of time. -/
structure Window (last : UInt32) (past : List DamageEvent) (s : RefSerial H) : Prop where
  inv : s.Inv 0
  events : s.events = past.filter (recent last)
  sorted : past.Pairwise fun event event' => event.timestampMs ≤ event'.timestampMs
  le_last : ∀ event ∈ past, event.timestampMs ≤ last
  last_lt : last.toNat + 1000 < UInt32.size

theorem dropWhile_eq_filter {α : Type*} {p : α → Bool} {l : List α}
    (h : l.Pairwise fun a b => p b = true → p a = true) :
    l.dropWhile p = l.filter fun a => !p a := by
  induction l with
  | nil => rfl
  | cons a l ih =>
    obtain ⟨hhead, htail⟩ := List.pairwise_cons.1 h
    cases ha : p a
    · rw [List.dropWhile_cons_of_neg (by simp [ha]), List.filter_cons_of_pos (by simp [ha])]
      refine congrArg (a :: ·) (List.filter_eq_self.2 fun b hb => ?_).symm
      cases hp : p b
      · rfl
      · exact absurd (hhead b hb hp) (by simp [ha])
    · rw [List.dropWhile_cons_of_pos ha, List.filter_cons_of_neg (by simp [ha]), ih htail]

/-- Without an overflow, an event that has not expired is a recent one. -/
theorem expired_eq {last : UInt32} {event : DamageEvent} (hle : event.timestampMs ≤ last)
    (hlast : last.toNat + 1000 < UInt32.size) : expired now event = !recent now event := by
  have hevent : (event.timestampMs + 1000).toNat = event.timestampMs.toNat + 1000 := by
    rw [UInt32.le_iff_toNat_le] at hle
    rw [UInt32.toNat_add]
    exact Nat.mod_eq_of_lt (Nat.lt_of_le_of_lt (Nat.add_le_add_right hle _) hlast)
  rw [expired, recent, ← decide_not]
  refine decide_eq_decide.2 ?_
  rw [UInt32.lt_iff_toNat_lt, hevent]
  omega

theorem Window.remaining_eq {last : UInt32} {past : List DamageEvent} (h : s.Window last past)
    (hnow : last ≤ now) : remaining now s.events = past.filter (recent now) := by
  have hmem : ∀ event ∈ past.filter (recent last), expired now event = !recent now event :=
    fun event hevent => expired_eq (h.le_last event (List.mem_of_mem_filter hevent)) h.last_lt
  rw [remaining, h.events, dropWhile_eq_filter]
  · have hfilter : (past.filter (recent last)).filter (fun event => !expired now event) =
        (past.filter (recent last)).filter (recent now) :=
      List.filter_congr fun event hevent => by rw [hmem event hevent, Bool.not_not]
    rw [hfilter, List.filter_filter]
    refine List.filter_congr fun event hevent => ?_
    -- what is recent now was so before
    rw [UInt32.le_iff_toNat_le] at hnow
    rw [recent, recent, ← Bool.decide_and]
    exact decide_eq_decide.2 ⟨fun hboth => by omega, fun hrecent => by omega⟩
  · refine List.Pairwise.imp_of_mem (fun ha hb hle => ?_) (h.sorted.filter _)
    rw [hmem _ ha, hmem _ hb, recent, recent]
    rw [UInt32.le_iff_toNat_le] at hle
    simp only [Bool.not_eq_true', decide_eq_false_iff_not, not_le]
    intro hlt
    omega

theorem Window.next {last : UInt32} {past : List DamageEvent} (h : s.Window last past) {c : Call}
    (hnow : last ≤ c.now) (hclock : c.now.toNat + 1000 < UInt32.size) (hfits : s.Fits c) :
    (s.next c).Window c.now (past ++ if 0 < damageTaken s c.message then
      [⟨UInt16.ofNat (damageTaken s c.message).toNat, c.now⟩] else []) := by
  obtain ⟨hinv, hevents⟩ := messageReceiveCallback_spec h.inv c.now c.message
  have hkept : evicted c.now (damageTaken s c.message) s.events = [] :=
    if_neg fun hfull => Nat.ne_of_lt (hfits hfull.1) hfull.2
  rw [hkept, damageOf_nil, add_zero] at hinv
  have hold : ∀ event ∈ past, event.timestampMs ≤ c.now := fun event hevent =>
    UInt32.le_trans (h.le_last event hevent) hnow
  have hrecent : recent c.now ⟨UInt16.ofNat (damageTaken s c.message).toNat, c.now⟩ = true :=
    decide_eq_true (Nat.le_add_right _ _)
  refine ⟨hinv, ?_, ?_, ?_, hclock⟩
  · show (s.messageReceiveCallback c.now c.message).1.events = _
    rw [hevents, track, h.remaining_eq hnow]
    split_ifs with hpos hfull
    · exact absurd (h.remaining_eq hnow ▸ hfull) (Nat.ne_of_lt (hfits hpos))
    · rw [List.filter_append, List.filter_cons_of_pos hrecent, List.filter_nil]
    · rw [List.append_nil]
  · split_ifs
    · exact List.pairwise_append.2 ⟨h.sorted, List.pairwise_singleton _ _,
        fun event hevent event' hevent' => by
          obtain rfl := List.mem_singleton.1 hevent'
          exact hold event hevent⟩
    · rw [List.append_nil]
      exact h.sorted
  · intro event hevent
    rcases List.mem_append.1 hevent with hevent | hevent
    · exact hold event hevent
    · split_ifs at hevent
      · obtain rfl := List.mem_singleton.1 hevent
        exact UInt32.le_refl _
      · exact absurd hevent List.not_mem_nil

theorem Window.after {last : UInt32} {past : List DamageEvent} (h : s.Window last past)
    (hclock : ClockRuns last calls) (hfits : Each RefSerial.next Fits s calls) :
    ∃ last', (Run.after RefSerial.next s calls).Window last' (past ++ history s calls) ∧
      last' = (calls.map Call.now).getLastD last := by
  induction calls generalizing s last past with
  | nil => exact ⟨last, by rwa [history, List.append_nil], rfl⟩
  | cons c calls ih =>
    obtain ⟨last', hwindow, hlast⟩ :=
      ih (h.next hclock.1 hclock.2.1 hfits.1) hclock.2.2 hfits.2
    refine ⟨last', ?_, ?_⟩
    · rw [history, ← List.append_assoc]
      exact hwindow
    · rw [hlast, List.map_cons, List.getLastD_cons]

theorem window_construct (buffer : Fin DPS_TRACKER_DEQUE_SIZE → DamageEvent) :
    (construct buffer : RefSerial H).Window 0 [] :=
  ⟨inv_construct buffer, rfl, List.Pairwise.nil, fun _ h => absurd h List.not_mem_nil, by decide⟩

/-- **`receivedDps` is the damage of the last second**, as of the last message, if the clock runs
and damage is not reported while the deque is full. -/
theorem receivedDps_eq_window (calls : List Call) (hclock : ClockRuns 0 calls)
    (hfits : Each RefSerial.next Fits (construct buffer : RefSerial H) calls) :
    (Run.after RefSerial.next (construct buffer : RefSerial H) calls).robotData.receivedDps =
      damageOf ((history (construct buffer : RefSerial H) calls).filter
        (recent ((calls.map Call.now).getLastD 0))) := by
  obtain ⟨last, hwindow, rfl⟩ := (window_construct (H := H) buffer).after hclock hfits
  rw [hwindow.inv.receivedDps, hwindow.events, add_zero, List.nil_append]

/-- The robot's status twice, with 100 health points and then with 90. -/
theorem receivedDps_eq_window_two :
    (Run.after RefSerial.next (construct fun _ => ⟨0, 0⟩ : RefSerial Bool)
      [⟨5, [0xa5, 13, 0, 0, 0, 1, 2, 1, 1, 100, 0]⟩,
        ⟨7, [0xa5, 13, 0, 0, 0, 1, 2, 1, 1, 90, 0]⟩]).robotData.receivedDps =
      damageOf ((history (construct fun _ => ⟨0, 0⟩ : RefSerial Bool)
        [⟨5, [0xa5, 13, 0, 0, 0, 1, 2, 1, 1, 100, 0]⟩,
          ⟨7, [0xa5, 13, 0, 0, 0, 1, 2, 1, 1, 90, 0]⟩]).filter (recent 7)) :=
  receivedDps_eq_window _ (by decide) ⟨by decide, by decide, trivial⟩

end RefSerial

end Aimbots.Tap
