import Aimbots.Gimbal.GimbalChassisRelativeController

/-!
# `gimbal_field_relative_controller.hpp`: whether the controllers have settled

The cascade controllers of this class are asked in the same way as the controllers of
`GimbalChassisRelativeController`.  Both keep one flag for all motors, which every motor that is
online overwrites: the answer is that all have settled whenever the last one has, and it is right
exactly if the last one does not settle before the others (`allOnlineControllersSettled_right_iff`).
-/

namespace Aimbots.Gimbal

open Utils

/-! ### What the answer is meant to be -/

section Axis

variable {n : ℕ} (pids : Fin n → SmoothPID) (r : AxisReading n) (now : UInt32) (errTolerance : ℚ)
  (errTimeout : UInt32)

/-- The controller of the motor reports that it has settled. -/
def Reports (i : Fin n) : Prop := ((pids i).isSettled now errTolerance (some errTimeout)).2 = true

/-- Some motor is online, and the controllers of all that are report that they have settled. -/
def AllReport : Prop :=
  (∃ i, r.isMotorOnline i = true) ∧
    ∀ i, r.isMotorOnline i = true → Reports pids now errTolerance errTimeout i

/-- If the last motor that is online reports that it has settled, the others that are online do. -/
def LastSpeaksForAll : Prop :=
  (∃ i ∈ r.lastOnline, Reports pids now errTolerance errTimeout i) →
    ∀ i, r.isMotorOnline i = true → Reports pids now errTolerance errTimeout i

instance (i : Fin n) : Decidable (Reports pids now errTolerance errTimeout i) := by
  unfold Reports; infer_instance

instance : Decidable (AllReport pids r now errTolerance errTimeout) := by
  unfold AllReport; infer_instance

variable {pids r now errTolerance errTimeout}

/-- There is a last motor that is online if there is any. -/
theorem AxisReading.exists_lastOnline (h : ∃ i, r.isMotorOnline i = true) :
    ∃ i ∈ r.lastOnline, r.isMotorOnline i = true := by
  obtain ⟨i, honline⟩ := h
  have hmem : i ∈ (List.finRange n).filter r.isMotorOnline :=
    List.mem_filter.2 ⟨List.mem_finRange i, honline⟩
  refine ⟨_, List.getLast?_eq_some_getLast (List.ne_nil_of_mem hmem), ?_⟩
  exact (List.mem_filter.1 (List.getLast_mem (List.ne_nil_of_mem hmem))).2

/-- The last motor that is online is online. -/
theorem AxisReading.isMotorOnline_of_lastOnline {i : Fin n} (h : i ∈ r.lastOnline) :
    r.isMotorOnline i = true :=
  (List.mem_filter.1 (List.mem_of_getLast? h)).2

/-- Motors of which all report that they have settled are found settled. -/
theorem settled_of_allReport (h : AllReport pids r now errTolerance errTimeout) :
    (allOnlineControllersSettled pids r now errTolerance errTimeout).2 = true := by
  obtain ⟨i, hlast, honline⟩ := AxisReading.exists_lastOnline h.1
  exact settled_allOnlineControllersSettled.2 ⟨i, hlast, h.2 i honline⟩

/-- The answer of an axis is right exactly if the last motor that is online speaks for all. -/
theorem settled_iff_allReport_iff :
    ((allOnlineControllersSettled pids r now errTolerance errTimeout).2 = true ↔
        AllReport pids r now errTolerance errTimeout) ↔
      LastSpeaksForAll pids r now errTolerance errTimeout := by
  constructor
  · intro h hlast
    exact (h.1 (settled_allOnlineControllersSettled.2 hlast)).2
  · intro h
    refine ⟨fun hsettled => ?_, settled_of_allReport⟩
    obtain ⟨i, hlast, hreports⟩ := settled_allOnlineControllersSettled.1 hsettled
    exact ⟨⟨i, AxisReading.isMotorOnline_of_lastOnline hlast⟩, h ⟨i, hlast, hreports⟩⟩

end Axis

/-! ### The two controllers -/

/-- The cascade controllers of `GimbalFieldRelativeController`, for `m = YAW_MOTOR_COUNT` and
`n = PITCH_MOTOR_COUNT`. -/
structure GimbalFieldRelativeController (m n : ℕ) where
  yawPositionCascadePIDs : Fin m → SmoothPID
  pitchPositionCascadePIDs : Fin n → SmoothPID

namespace GimbalFieldRelativeController

variable {m n : ℕ} (g : GimbalFieldRelativeController m n) (now : UInt32)

/-- The constructor, of controllers as `BuildPIDControllers` makes them. -/
def construct (yaw : Fin m → SmoothPIDWrapper) (pitch : Fin n → SmoothPIDWrapper) :
    GimbalFieldRelativeController m n where
  yawPositionCascadePIDs i := .construct (yaw i)
  pitchPositionCascadePIDs i := .construct (pitch i)

/-- `allOnlineYawControllersSettled`. -/
def allOnlineYawControllersSettled (r : AxisReading m) (errTolerance : ℚ) (errTimeout : UInt32) :
    GimbalFieldRelativeController m n × Bool :=
  let asked := allOnlineControllersSettled g.yawPositionCascadePIDs r now errTolerance errTimeout
  ({ g with yawPositionCascadePIDs := asked.1 }, asked.2)

/-- `allOnlinePitchControllersSettled`. -/
def allOnlinePitchControllersSettled (r : AxisReading n) (errTolerance : ℚ) (errTimeout : UInt32) :
    GimbalFieldRelativeController m n × Bool :=
  let asked := allOnlineControllersSettled g.pitchPositionCascadePIDs r now errTolerance errTimeout
  ({ g with pitchPositionCascadePIDs := asked.1 }, asked.2)

end GimbalFieldRelativeController

/-- **When all are said to have settled.**  Of each axis, by each of the two controllers, that is
said exactly if some motor is online and all that are report it, provided that the last motor that
is online does not report it before the others do, and only then. -/
theorem allOnlineControllersSettled_right_iff {m n : ℕ} (g : GimbalChassisRelativeController m n)
    (f : GimbalFieldRelativeController m n) (now : UInt32) (yaw : AxisReading m)
    (pitch : AxisReading n) (errTolerance : ℚ) (errTimeout : UInt32) :
    (((g.allOnlineYawControllersSettled now yaw errTolerance errTimeout).2 = true ↔
        AllReport g.yawPositionPIDs yaw now errTolerance errTimeout) ↔
      LastSpeaksForAll g.yawPositionPIDs yaw now errTolerance errTimeout) ∧
    (((g.allOnlinePitchControllersSettled now pitch errTolerance errTimeout).2 = true ↔
        AllReport g.pitchPositionPIDs pitch now errTolerance errTimeout) ↔
      LastSpeaksForAll g.pitchPositionPIDs pitch now errTolerance errTimeout) ∧
    (((f.allOnlineYawControllersSettled now yaw errTolerance errTimeout).2 = true ↔
        AllReport f.yawPositionCascadePIDs yaw now errTolerance errTimeout) ↔
      LastSpeaksForAll f.yawPositionCascadePIDs yaw now errTolerance errTimeout) ∧
    (((f.allOnlinePitchControllersSettled now pitch errTolerance errTimeout).2 = true ↔
        AllReport f.pitchPositionCascadePIDs pitch now errTolerance errTimeout) ↔
      LastSpeaksForAll f.pitchPositionCascadePIDs pitch now errTolerance errTimeout) :=
  ⟨settled_iff_allReport_iff, settled_iff_allReport_iff, settled_iff_allReport_iff,
    settled_iff_allReport_iff⟩

/-- Two motors, asked at 0 ms while both are on their target. -/
def askedOnTarget : Fin 2 → SmoothPID :=
  let onTarget : AxisReading 2 := ⟨fun _ => true, fun _ => 0, fun _ => 0⟩
  (allOnlineControllersSettled
    (runControllers (fun _ => .construct (.construct {} 0 0 0 0)) onTarget 0) onTarget 0
      (1 / 60) 500).1

/-- The same motors at 500 ms, when the first is a radian off its target. -/
def firstOffTarget : AxisReading 2 :=
  ⟨fun _ => true, fun i => if i.val = 0 then 1 else 0, fun _ => 0⟩

/-- Of two motors that are online, the first has an error of a radian: all are said to have settled,
of each axis and by each of the two controllers. -/
theorem settled_firstOffTarget :
    let pids := runControllers askedOnTarget firstOffTarget 500
    let g : GimbalChassisRelativeController 2 2 := ⟨pids, pids⟩
    let f : GimbalFieldRelativeController 2 2 := ⟨pids, pids⟩
    ¬ AllReport pids firstOffTarget 500 (1 / 60) 500 ∧
      (g.allOnlineYawControllersSettled 500 firstOffTarget (1 / 60) 500).2 = true ∧
      (g.allOnlinePitchControllersSettled 500 firstOffTarget (1 / 60) 500).2 = true ∧
      (f.allOnlineYawControllersSettled 500 firstOffTarget (1 / 60) 500).2 = true ∧
      (f.allOnlinePitchControllersSettled 500 firstOffTarget (1 / 60) 500).2 = true := by
  decide +kernel

end Aimbots.Gimbal
