import Aimbots.Library.Numerals
import Aimbots.TurretComms.AngleMessage

/-!
# `TurretCommunicator::sendTurretRequest`

The chassis' board collects its requests to the turret's board in `chassisRequestData` and sends
them when its timer has run out.  The set is cleared whether or not the CAN driver accepts the
message, so a request is lost exactly if it is pending when the driver refuses one
(`requestsKept_iff`).

What the timer answers and what the driver answers are part of a call, so that a run is one under
any timer and any bus.
-/

namespace Aimbots.TurretComms

open Tap
open scoped Numerals

/-- `CHASSIS_TO_TURRET_MSG_REQUEST_IMU_CALIBRATION`. -/
def CHASSIS_TO_TURRET_MSG_REQUEST_IMU_CALIBRATION : UInt8 := 0x01

/-- The requests that a `TurretCommunicator` collects. -/
structure TurretRequests where
  chassisRequestData : UInt8
deriving DecidableEq, Repr

/-- The calls that concern the requests.  A call of `sendTurretRequest` meets a timer that executes
or not, a stack with some bytes where the message will be, and a driver that accepts a message or
not. -/
inductive RequestCall
  | requestTurretIMUCalibrate
  | sendTurretRequest (executes : Bool) (stack : Vector UInt8 8) (accepts : Bool)
deriving DecidableEq, Repr

namespace TurretRequests

/-- The constructor: nothing is requested. -/
def construct : TurretRequests := ⟨0⟩

/-- `requestTurretIMUCalibrate`. -/
def requestTurretIMUCalibrate (t : TurretRequests) : TurretRequests :=
  ⟨t.chassisRequestData ||| CHASSIS_TO_TURRET_MSG_REQUEST_IMU_CALIBRATION⟩

/-- `sendTurretRequest`: the requests that are left, and the message, if the driver accepts it. -/
def sendTurretRequest (t : TurretRequests) (executes : Bool) (stack : Vector UInt8 8)
    (accepts : Bool) : TurretRequests × Option CanMessage :=
  if executes then
    let msg : CanMessage := ⟨CanID.ChassisToTurret.toUInt32, 1, stack⟩
    let msg := { msg with data := msg.data.set 0 t.chassisRequestData }
    (⟨0⟩, if accepts then some msg else none)
  else (t, none)

/-- One call, with the message that the driver accepts. -/
def call (t : TurretRequests) : RequestCall → TurretRequests × Option CanMessage
  | .requestTurretIMUCalibrate => (t.requestTurretIMUCalibrate, none)
  | .sendTurretRequest executes stack accepts => t.sendTurretRequest executes stack accepts

/-- A calibration is pending. -/
def Pending (t : TurretRequests) : Prop :=
  t.chassisRequestData &&& CHASSIS_TO_TURRET_MSG_REQUEST_IMU_CALIBRATION ≠ 0

instance (t : TurretRequests) : Decidable t.Pending := by unfold Pending; infer_instance

end TurretRequests

/-- The message asks the turret's board for a calibration, as `handleChassisRequestRX` reads it. -/
def CarriesCalibration (msg : CanMessage) : Prop :=
  msg.identifier = CanID.ChassisToTurret.toUInt32 ∧
    msg.data.get 0 &&& CHASSIS_TO_TURRET_MSG_REQUEST_IMU_CALIBRATION ≠ 0

instance (msg : CanMessage) : Decidable (CarriesCalibration msg) := by
  unfold CarriesCalibration; infer_instance

/-! ### Runs -/

/-- The requests after some calls, and whether a calibration is outstanding: it has been requested,
and no message that carries it has been accepted since. -/
structure RequestRun where
  requests : TurretRequests
  outstanding : Bool
deriving DecidableEq, Repr

namespace RequestRun

/-- Before the first call. -/
def start : RequestRun := ⟨.construct, false⟩

/-- One more call. -/
def next (r : RequestRun) (c : RequestCall) : RequestRun :=
  let (requests, accepted) := r.requests.call c
  { requests
    outstanding :=
      match c with
      | .requestTurretIMUCalibrate => true
      | .sendTurretRequest .. => r.outstanding && !accepted.any (decide <| CarriesCalibration ·) }

/-- The run of a sequence of calls. -/
def after (calls : List RequestCall) : RequestRun := calls.foldl next start

theorem after_append (calls : List RequestCall) (c : RequestCall) :
    after (calls ++ [c]) = (after calls).next c := by
  rw [after, after, List.foldl_append, List.foldl_cons, List.foldl_nil]

/-- An outstanding calibration is pending. -/
def Kept (r : RequestRun) : Prop := r.outstanding = true → r.requests.Pending

/-- The call sends a pending calibration, and the driver refuses the message. -/
def Refused (r : RequestRun) (c : RequestCall) : Prop :=
  r.requests.Pending ∧ ∃ stack, c = .sendTurretRequest true stack false

variable {r : RequestRun} {c : RequestCall}

theorem pending_requestTurretIMUCalibrate (t : TurretRequests) :
    t.requestTurretIMUCalibrate.Pending := by
  intro h
  have hbit := congrArg UInt8.toNat h
  rw [UInt8.toNat_and, TurretRequests.requestTurretIMUCalibrate, UInt8.toNat_or,
    Nat.and_or_distrib_right, Nat.and_self] at hbit
  exact absurd (Nat.right_le_or.trans hbit.le) (by decide)

/-- A message of `sendTurretRequest` carries a calibration exactly if one is pending. -/
theorem carriesCalibration_iff (t : TurretRequests) (stack : Vector UInt8 8) :
    CarriesCalibration ⟨CanID.ChassisToTurret.toUInt32, 1, stack.set 0 t.chassisRequestData⟩ ↔
      t.Pending := by
  have hget : (stack.set 0 t.chassisRequestData).get 0 = t.chassisRequestData :=
    Vector.getElem_set_self ..
  simp only [CarriesCalibration, hget, true_and]
  rfl

/-- **What a call does**: it requests a calibration, leaves everything alone, or clears the
requests, having sent a message that was accepted or not. -/
theorem next_cases (r : RequestRun) (c : RequestCall) :
    (c = .requestTurretIMUCalibrate ∧ (r.next c).requests.Pending ∧
        (r.next c).outstanding = true) ∨
      (∃ stack accepts, c = .sendTurretRequest true stack accepts ∧
        ¬ (r.next c).requests.Pending ∧
        ((r.next c).outstanding = true ↔
          r.outstanding = true ∧ ¬ (accepts = true ∧ r.requests.Pending))) ∨
      ((∃ stack accepts, c = .sendTurretRequest false stack accepts) ∧ r.next c = r) := by
  cases c with
  | requestTurretIMUCalibrate =>
    exact Or.inl ⟨rfl, pending_requestTurretIMUCalibrate _, rfl⟩
  | sendTurretRequest executes stack accepts =>
    cases executes with
    | false =>
      refine Or.inr (Or.inr ⟨⟨stack, accepts, rfl⟩, ?_⟩)
      simp [next, TurretRequests.call, TurretRequests.sendTurretRequest]
    | true =>
      refine Or.inr (Or.inl ⟨stack, accepts, rfl, ?_, ?_⟩)
      · show ¬ (0 : UInt8) &&& CHASSIS_TO_TURRET_MSG_REQUEST_IMU_CALIBRATION ≠ 0
        decide
      · cases accepts <;>
          simp [next, TurretRequests.call, TurretRequests.sendTurretRequest, carriesCalibration_iff]

/-- What is pending is outstanding. -/
theorem outstanding_of_pending (calls : List RequestCall) (h : (after calls).requests.Pending) :
    (after calls).outstanding = true := by
  induction calls using List.reverseRecOn with
  | nil => exact absurd rfl h
  | append_singleton calls c ih =>
    rw [after_append] at h ⊢
    rcases next_cases (after calls) c with ⟨-, -, hout⟩ | ⟨-, -, -, hnot, -⟩ | ⟨-, heq⟩
    · exact hout
    · exact absurd h hnot
    · rw [heq] at h ⊢
      exact ih h

/-- A call that is not refused keeps what is outstanding. -/
theorem kept_next (h : r.Kept) (hc : ¬ r.Refused c) : (r.next c).Kept := by
  intro hout
  rcases next_cases r c with ⟨-, hpending, -⟩ | ⟨stack, accepts, rfl, -, hiff⟩ | ⟨-, heq⟩
  · exact hpending
  · obtain ⟨hr, hnot⟩ := hiff.1 hout
    cases accepts with
    | false => exact absurd ⟨h hr, stack, rfl⟩ hc
    | true => exact absurd ⟨rfl, h hr⟩ hnot
  · rw [heq] at hout ⊢
    exact h hout

/-- A refused call loses a request. -/
theorem not_kept_next {calls : List RequestCall} (hc : (after calls).Refused c) :
    ¬ ((after calls).next c).Kept := by
  obtain ⟨hpending, stack, rfl⟩ := hc
  intro hkept
  rcases next_cases (after calls) (.sendTurretRequest true stack false) with
    ⟨h, -⟩ | ⟨stack', accepts, h, hnot, hiff⟩ | ⟨⟨_, _, h⟩, -⟩
  · cases h
  · cases h
    exact hnot (hkept (hiff.2 ⟨outstanding_of_pending calls hpending, by simp⟩))
  · cases h

/-- **When no request is lost**: after every part of a run a calibration that is outstanding is
pending, exactly if the driver refuses no message that is sent while a calibration is pending. -/
theorem requestsKept_iff (calls : List RequestCall) :
    (∀ before rest, calls = before ++ rest → (after before).Kept) ↔
      ∀ before c rest, calls = before ++ c :: rest → ¬ (after before).Refused c := by
  constructor
  · intro h before c rest hcalls hrefused
    have hkept := h (before ++ [c]) rest (by rw [hcalls, List.append_cons])
    rw [after_append] at hkept
    exact not_kept_next hrefused hkept
  · intro h before
    induction before using List.reverseRecOn with
    | nil => exact fun _ _ hout => absurd hout (by decide)
    | append_singleton before c ih =>
      intro rest hcalls
      rw [List.append_assoc, List.singleton_append] at hcalls
      rw [after_append]
      exact kept_next (ih (c :: rest) hcalls) (h before c rest hcalls)

/-- A transmit buffer that is full once loses the request. -/
theorem request_lost :
    ¬ ∀ before rest, [RequestCall.requestTurretIMUCalibrate,
        .sendTurretRequest true (Vector.replicate 8 0) false] = before ++ rest →
      (after before).Kept := by
  intro h
  have hkept := h _ [] (List.append_nil _).symm
  exact absurd (hkept (by decide)) (by decide)

end RequestRun

end Aimbots.TurretComms
