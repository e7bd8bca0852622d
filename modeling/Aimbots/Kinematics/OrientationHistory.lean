import Aimbots.Kinematics.CoordinateFrame
import Aimbots.Tap.BoundedDeque

/-!
# The history buffers of `gimbal.hpp` and `kinematic_informant.hpp`

Every 2 ms the main loop puts one sample into each of three buffers.  The three functions that look
back by a time turn it into an index of their own: the two of the gimbal take 2 ms for an update,
the one of the chassis takes `KINEMATIC_REFRESH_RATE`, which is 1 ms, and all bound the index by the
capacity of the buffer and not by what is in it.

`past` is the sample that such a function is for.  `looksBack_iff` says for which numbers of updates
and which times it is the one returned.
-/

namespace Aimbots.Kinematics

open Tap

/-- `GIMBAL_BUFFER_SIZE`, of `GimbalSubsystem` and of `KinematicInformant`. -/
def GIMBAL_BUFFER_SIZE : ℕ := 40

/-- `CHASSIS_IMU_BUFFER_SIZE`. -/
def CHASSIS_IMU_BUFFER_SIZE : ℕ := 50

/-- `KINEMATIC_REFRESH_RATE`, in ms. -/
def KINEMATIC_REFRESH_RATE : ℕ := 1

instance neZero_gimbal : NeZero GIMBAL_BUFFER_SIZE := ⟨by decide⟩

instance neZero_chassis : NeZero CHASSIS_IMU_BUFFER_SIZE := ⟨by decide⟩

/-- What one update puts into the buffers: yaw and pitch of the gimbal, relative to the chassis and
to the field, and the angles of the chassis. -/
structure OrientationSample where
  gimbalOrientation : ℚ × ℚ
  chassisIMUAngles : Vector3f ℚ
  gimbalFieldOrientation : ℚ × ℚ

/-- The three buffers: the first is a member of `GimbalSubsystem`, the others of
`KinematicInformant`. -/
structure OrientationHistory where
  gimbalOrientationBuffer : BoundedDeque (ℚ × ℚ) GIMBAL_BUFFER_SIZE
  chassisIMUHistoryBuffer : BoundedDeque (Vector3f ℚ) CHASSIS_IMU_BUFFER_SIZE
  gimbalFieldOrientationBuffer : BoundedDeque (ℚ × ℚ) GIMBAL_BUFFER_SIZE

/-- `std::min(index, N - 1)`, an index of a buffer of `N` slots. -/
def clamped (N : ℕ) [NeZero N] (index : ℕ) : Fin N :=
  ⟨min index (N - 1), by have := Nat.pos_of_neZero N; omega⟩

namespace OrientationHistory

/-- The buffers before the first update, with what their slots hold. -/
def construct (gimbal field : Fin GIMBAL_BUFFER_SIZE → ℚ × ℚ)
    (chassis : Fin CHASSIS_IMU_BUFFER_SIZE → Vector3f ℚ) : OrientationHistory :=
  ⟨.construct gimbal, .construct chassis, .construct field⟩

/-- One turn of the main loop: `GimbalSubsystem::refresh`, then `updateRobotFrames`. -/
def update (h : OrientationHistory) (sample : OrientationSample) : OrientationHistory where
  gimbalOrientationBuffer := h.gimbalOrientationBuffer.prependOverwrite sample.gimbalOrientation
  chassisIMUHistoryBuffer := h.chassisIMUHistoryBuffer.prependOverwrite sample.chassisIMUAngles
  gimbalFieldOrientationBuffer :=
    h.gimbalFieldOrientationBuffer.prependOverwrite sample.gimbalFieldOrientation

/-- The buffers after the first `k` of some samples. -/
def updates (h : OrientationHistory) (samples : ℕ → OrientationSample) : ℕ → OrientationHistory
  | 0 => h
  | k + 1 => (h.updates samples k).update (samples k)

/-- `GimbalSubsystem::getGimbalOrientationAtTime`. -/
def getGimbalOrientationAtTime (h : OrientationHistory) (time_ms : UInt32) : ℚ × ℚ :=
  h.gimbalOrientationBuffer.get (clamped GIMBAL_BUFFER_SIZE (time_ms.toNat / 2))

/-- `getChassisIMUOrientationAtTime`. -/
def getChassisIMUOrientationAtTime (h : OrientationHistory) (time_ms : UInt32) : Vector3f ℚ :=
  h.chassisIMUHistoryBuffer.get
    (clamped CHASSIS_IMU_BUFFER_SIZE (time_ms.toNat / KINEMATIC_REFRESH_RATE))

/-- `getGimbalFieldOrientationAtTime`. -/
def getGimbalFieldOrientationAtTime (h : OrientationHistory) (time_ms : UInt32) : ℚ × ℚ :=
  h.gimbalFieldOrientationBuffer.get (clamped GIMBAL_BUFFER_SIZE (time_ms.toNat / 2))

/-- `clearGimbalOrientationBuffer`, which is called nowhere. -/
def clearGimbalOrientationBuffer (h : OrientationHistory) : OrientationHistory :=
  { h with gimbalOrientationBuffer := h.gimbalOrientationBuffer.clear }

/-- `clearGimbalFieldOrientationBuffer`, which is called nowhere. -/
def clearGimbalFieldOrientationBuffer (h : OrientationHistory) : OrientationHistory :=
  { h with gimbalFieldOrientationBuffer := h.gimbalFieldOrientationBuffer.clear }

/-! ### Every buffer holds its part of the samples -/

section Updates

variable (h : OrientationHistory) (samples : ℕ → OrientationSample) (k : ℕ)

theorem gimbalOrientationBuffer_updates :
    (h.updates samples k).gimbalOrientationBuffer =
      h.gimbalOrientationBuffer.pushes (OrientationSample.gimbalOrientation ∘ samples) k := by
  induction k with
  | zero => rfl
  | succ k ih => rw [updates, update, ih]; rfl

theorem chassisIMUHistoryBuffer_updates :
    (h.updates samples k).chassisIMUHistoryBuffer =
      h.chassisIMUHistoryBuffer.pushes (OrientationSample.chassisIMUAngles ∘ samples) k := by
  induction k with
  | zero => rfl
  | succ k ih => rw [updates, update, ih]; rfl

theorem gimbalFieldOrientationBuffer_updates :
    (h.updates samples k).gimbalFieldOrientationBuffer =
      h.gimbalFieldOrientationBuffer.pushes (OrientationSample.gimbalFieldOrientation ∘ samples)
        k := by
  induction k with
  | zero => rfl
  | succ k ih => rw [updates, update, ih]; rfl

end Updates

/-! ### Looking back -/

/-- The sample put in `ago` updates before the last of `k`, or the oldest that a buffer of `N` slots
still stores. -/
def past {α : Type*} (samples : ℕ → α) (k N ago : ℕ) : α :=
  samples (k - 1 - min ago (min k N - 1))

/-- A bounded index reads the past sample of one part of the samples exactly if it is the number of
updates to go back, bounded by what is stored. -/
theorem get_clamped_iff {α : Type*} [Nontrivial α] {N : ℕ} [NeZero N] {k : ℕ} (hk : 1 ≤ k)
    {part : OrientationSample → α} (hpart : part.Surjective) (buffer : Fin N → α) (index ago : ℕ) :
    (∀ samples : ℕ → OrientationSample,
      ((BoundedDeque.construct buffer).pushes (part ∘ samples) k).get (clamped N index) =
        past (part ∘ samples) k N ago) ↔
      min index (N - 1) = min ago (min k N - 1) := by
  have hN := Nat.pos_of_neZero N
  have hstored : min ago (min k N - 1) < min k N := by omega
  have hread := BoundedDeque.get_pushes_eq_iff buffer hstored (clamped N index)
  exact hpart.comp_left.forall.symm.trans hread

section Lookups

/-- `getGimbalOrientationAtTime` returns the past sample, whatever the samples are. -/
def GimbalLooksBack (h : OrientationHistory) (k : ℕ) (time_ms : UInt32) : Prop :=
  ∀ samples, (h.updates samples k).getGimbalOrientationAtTime time_ms =
    past (OrientationSample.gimbalOrientation ∘ samples) k GIMBAL_BUFFER_SIZE (time_ms.toNat / 2)

/-- `getGimbalFieldOrientationAtTime` returns the past sample, whatever the samples are. -/
def GimbalFieldLooksBack (h : OrientationHistory) (k : ℕ) (time_ms : UInt32) : Prop :=
  ∀ samples, (h.updates samples k).getGimbalFieldOrientationAtTime time_ms =
    past (OrientationSample.gimbalFieldOrientation ∘ samples) k GIMBAL_BUFFER_SIZE
      (time_ms.toNat / 2)

/-- `getChassisIMUOrientationAtTime` returns the past sample, whatever the samples are. -/
def ChassisIMULooksBack (h : OrientationHistory) (k : ℕ) (time_ms : UInt32) : Prop :=
  ∀ samples, (h.updates samples k).getChassisIMUOrientationAtTime time_ms =
    past (OrientationSample.chassisIMUAngles ∘ samples) k CHASSIS_IMU_BUFFER_SIZE
      (time_ms.toNat / 2)

variable {h : OrientationHistory} {k : ℕ} (hk : 1 ≤ k)
include hk

/-- The index counts updates of 2 ms, but in a buffer that is not full it can lie behind them. -/
theorem gimbalLooksBack_iff {buffer : Fin GIMBAL_BUFFER_SIZE → ℚ × ℚ}
    (hempty : h.gimbalOrientationBuffer = .construct buffer) (time_ms : UInt32) :
    h.GimbalLooksBack k time_ms ↔ time_ms.toNat / 2 < k ∨ GIMBAL_BUFFER_SIZE ≤ k := by
  have hpart : OrientationSample.gimbalOrientation.Surjective := fun v => ⟨⟨v, 0, 0⟩, rfl⟩
  simp only [GimbalLooksBack, getGimbalOrientationAtTime, gimbalOrientationBuffer_updates, hempty]
  refine (get_clamped_iff hk hpart buffer (time_ms.toNat / 2) (time_ms.toNat / 2)).trans ?_
  unfold GIMBAL_BUFFER_SIZE
  omega

theorem gimbalFieldLooksBack_iff {buffer : Fin GIMBAL_BUFFER_SIZE → ℚ × ℚ}
    (hempty : h.gimbalFieldOrientationBuffer = .construct buffer) (time_ms : UInt32) :
    h.GimbalFieldLooksBack k time_ms ↔ time_ms.toNat / 2 < k ∨ GIMBAL_BUFFER_SIZE ≤ k := by
  have hpart : OrientationSample.gimbalFieldOrientation.Surjective := fun v => ⟨⟨0, 0, v⟩, rfl⟩
  simp only [GimbalFieldLooksBack, getGimbalFieldOrientationAtTime,
    gimbalFieldOrientationBuffer_updates, hempty]
  refine (get_clamped_iff hk hpart buffer (time_ms.toNat / 2) (time_ms.toNat / 2)).trans ?_
  unfold GIMBAL_BUFFER_SIZE
  omega

/-- The index counts two updates for each that there was, so it is right only where that makes no
difference: for the newest sample, and where either count has reached the oldest slot. -/
theorem chassisIMULooksBack_iff {buffer : Fin CHASSIS_IMU_BUFFER_SIZE → Vector3f ℚ}
    (hempty : h.chassisIMUHistoryBuffer = .construct buffer) (time_ms : UInt32) :
    h.ChassisIMULooksBack k time_ms ↔
      time_ms.toNat = 0 ∨
        CHASSIS_IMU_BUFFER_SIZE ≤ k ∧ CHASSIS_IMU_BUFFER_SIZE - 1 ≤ time_ms.toNat / 2 := by
  have hpart : OrientationSample.chassisIMUAngles.Surjective := fun v => ⟨⟨0, v, 0⟩, rfl⟩
  simp only [ChassisIMULooksBack, getChassisIMUOrientationAtTime, chassisIMUHistoryBuffer_updates,
    hempty]
  refine (get_clamped_iff hk hpart buffer (time_ms.toNat / KINEMATIC_REFRESH_RATE)
    (time_ms.toNat / 2)).trans ?_
  unfold CHASSIS_IMU_BUFFER_SIZE KINEMATIC_REFRESH_RATE
  omega

/-- The same after the buffers of the gimbal have been cleared, whenever that is. -/
theorem looksBack_clear_iff (h : OrientationHistory) (time_ms : UInt32) :
    (h.clearGimbalOrientationBuffer.GimbalLooksBack k time_ms ↔
      time_ms.toNat / 2 < k ∨ GIMBAL_BUFFER_SIZE ≤ k) ∧
    (h.clearGimbalFieldOrientationBuffer.GimbalFieldLooksBack k time_ms ↔
      time_ms.toNat / 2 < k ∨ GIMBAL_BUFFER_SIZE ≤ k) :=
  ⟨gimbalLooksBack_iff hk rfl time_ms, gimbalFieldLooksBack_iff hk rfl time_ms⟩

/-- **When the three functions look back right**, whatever the buffers held before the first
update. -/
theorem looksBack_iff (gimbal field : Fin GIMBAL_BUFFER_SIZE → ℚ × ℚ)
    (chassis : Fin CHASSIS_IMU_BUFFER_SIZE → Vector3f ℚ) (time_ms : UInt32) :
    ((construct gimbal field chassis).GimbalLooksBack k time_ms ↔
      time_ms.toNat / 2 < k ∨ GIMBAL_BUFFER_SIZE ≤ k) ∧
    ((construct gimbal field chassis).GimbalFieldLooksBack k time_ms ↔
      time_ms.toNat / 2 < k ∨ GIMBAL_BUFFER_SIZE ≤ k) ∧
    ((construct gimbal field chassis).ChassisIMULooksBack k time_ms ↔
      time_ms.toNat = 0 ∨
        CHASSIS_IMU_BUFFER_SIZE ≤ k ∧ CHASSIS_IMU_BUFFER_SIZE - 1 ≤ time_ms.toNat / 2) :=
  ⟨gimbalLooksBack_iff hk rfl time_ms, gimbalFieldLooksBack_iff hk rfl time_ms,
    chassisIMULooksBack_iff hk rfl time_ms⟩

omit hk in
/-- With one update made, two milliseconds ago is a slot that nothing was written to. -/
theorem looksBack_iff_one :
    ((construct 0 0 0).GimbalLooksBack 1 2 ↔ 2 / 2 < 1 ∨ GIMBAL_BUFFER_SIZE ≤ 1) ∧
    ((construct 0 0 0).GimbalFieldLooksBack 1 2 ↔ 2 / 2 < 1 ∨ GIMBAL_BUFFER_SIZE ≤ 1) ∧
    ((construct 0 0 0).ChassisIMULooksBack 1 2 ↔
      2 = 0 ∨ CHASSIS_IMU_BUFFER_SIZE ≤ 1 ∧ CHASSIS_IMU_BUFFER_SIZE - 1 ≤ 2 / 2) :=
  looksBack_iff (by decide) 0 0 0 2

end Lookups

/-- From buffers of zeros on, the gimbal and the chassis are first seen at 1 and then at 2.  Two
milliseconds before the first update the functions of the gimbal find zeros, and two milliseconds
before the third one that of the chassis finds where it was four milliseconds ago. -/
theorem not_looksBack_filling :
    let samples : ℕ → OrientationSample := fun n =>
      if n = 0 then ⟨(1, 0), ![1, 0, 0], (1, 0)⟩ else ⟨(2, 0), ![2, 0, 0], (2, 0)⟩
    let first := (construct 0 0 0).updates samples 1
    let third := (construct 0 0 0).updates samples 3
    (first.getGimbalOrientationAtTime 2 = (0, 0) ∧
      past (OrientationSample.gimbalOrientation ∘ samples) 1 GIMBAL_BUFFER_SIZE 1 = (1, 0)) ∧
    (first.getGimbalFieldOrientationAtTime 2 = (0, 0) ∧
      past (OrientationSample.gimbalFieldOrientation ∘ samples) 1 GIMBAL_BUFFER_SIZE 1 = (1, 0)) ∧
    third.getChassisIMUOrientationAtTime 2 = ![1, 0, 0] ∧
      past (OrientationSample.chassisIMUAngles ∘ samples) 3 CHASSIS_IMU_BUFFER_SIZE 1 =
        ![2, 0, 0] := by
  decide

end OrientationHistory

end Aimbots.Kinematics
