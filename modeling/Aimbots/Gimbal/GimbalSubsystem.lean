import Aimbots.Library.Numerals
import Aimbots.Tap.WrappedFloat
import Mathlib.Analysis.SpecialFunctions.Trigonometric.Basic

/-!
# `gimbal.cpp`: the angle of the pitch axis

`refresh` reads the unwrapped encoders of the pitch motors, takes each motor's angle into one turn,
scales it by the gear ratio and averages over the motors that are online.  Angles from `-π` on are
taken into `[-π, π)`, but `wrapAngleToPiRange` uses a truncating remainder, and leaves angles below
`-π` one turn too low (`wrapAngleToPiRange_of_not_wrappable`).  With a reduction gear the axis then
reads another angle than it does some motor turns later (`pitch_independent_iff`).
-/

namespace Aimbots.Gimbal

open Tap
open scoped Numerals
open Real (pi)

/-- `DJIMotor::ENC_RESOLUTION`. -/
def ENC_RESOLUTION : ℕ := 8192

/-- `DJIEncoderValueToRadians`. -/
noncomputable def DJIEncoderValueToRadians (encoderValue : Int64) : ℝ :=
  2 * pi * encoderValue.toInt / ENC_RESOLUTION

/-- `wrapAngleToPiRange`. -/
noncomputable def wrapAngleToPiRange (angle : ℝ) : ℝ := fmod (angle + pi) (2 * pi) - pi

/-- The constants of a robot that the pitch axis uses, for `n = PITCH_MOTOR_COUNT` motors. -/
structure PitchConstants (n : ℕ) where
  GIMBAL_PITCH_GEAR_RATIO : ℝ
  PITCH_MOTOR_OFFSET_ANGLES : Fin n → ℝ
  gear_pos : 0 < GIMBAL_PITCH_GEAR_RATIO
  offset_mem : ∀ i, PITCH_MOTOR_OFFSET_ANGLES i ∈ Set.Icc 0 (2 * pi)

/-- The pitch angles of a `GimbalSubsystem`. -/
structure GimbalSubsystem (n : ℕ) where
  currentPitchAxisAnglesByMotor : Fin n → WrappedFloat (-pi) pi
  currentPitchAxisAngle : WrappedFloat (-pi) pi

namespace GimbalSubsystem

variable {n : ℕ} (c : PitchConstants n)

/-- The constructor. -/
noncomputable def construct : GimbalSubsystem n := ⟨fun _ => .construct 0, .construct 0⟩

/-- The angle of a motor away from its offset. -/
noncomputable def motorAngle (i : Fin n) (encoder : Int64) : ℝ :=
  DJIEncoderValueToRadians encoder - c.PITCH_MOTOR_OFFSET_ANGLES i

/-- `wrappedPitchAxisAngle`, of one motor. -/
noncomputable def wrappedPitchAxisAngle (i : Fin n) (encoder : Int64) : ℝ :=
  c.GIMBAL_PITCH_GEAR_RATIO * wrapAngleToPiRange (motorAngle c i encoder)

/-- The variables of the loop over the pitch motors. -/
structure PitchLoop (n : ℕ) where
  currentPitchAxisAnglesByMotor : Fin n → WrappedFloat (-pi) pi
  pitchOnlineCount : ℕ
  pitchAxisAngleSum : ℝ

/-- The body of the loop over the pitch motors.  A motor that is offline has no encoder. -/
noncomputable def refreshPitchMotor (encoders : Fin n → Option Int64) (l : PitchLoop n)
    (i : Fin n) :
    PitchLoop n :=
  match encoders i with
  | none => l
  | some encoder =>
    let angle := wrappedPitchAxisAngle c i encoder
    { currentPitchAxisAnglesByMotor :=
        Function.update l.currentPitchAxisAnglesByMotor i
          ((l.currentPitchAxisAnglesByMotor i).setWrappedValue angle)
      pitchOnlineCount := l.pitchOnlineCount + 1
      pitchAxisAngleSum := l.pitchAxisAngleSum + angle }

/-- `refresh`, the pitch axis. -/
noncomputable def refresh (s : GimbalSubsystem n) (encoders : Fin n → Option Int64) :
    GimbalSubsystem n :=
  let l := (List.finRange n).foldl (refreshPitchMotor c encoders)
    ⟨s.currentPitchAxisAnglesByMotor, 0, 0⟩
  { currentPitchAxisAnglesByMotor := l.currentPitchAxisAnglesByMotor
    currentPitchAxisAngle :=
      if l.pitchOnlineCount > 0 then
        s.currentPitchAxisAngle.setWrappedValue (l.pitchAxisAngleSum / l.pitchOnlineCount)
      else s.currentPitchAxisAngle }

/-- `getCurrentPitchAxisAngle`, in radians. -/
def getCurrentPitchAxisAngle (s : GimbalSubsystem n) : ℝ := s.currentPitchAxisAngle.wrapped

/-! ### One turn of a motor -/

/-- The angle is in range or above it, or it is a whole number of turns away from `-π`. -/
def Wrappable (angle : ℝ) : Prop := -pi ≤ angle ∨ ∃ k : ℤ, angle + pi = k * (2 * pi)

theorem turn_pos : 0 < 2 * pi := Real.two_pi_pos

/-- The angle in `[-π, π)` that differs by whole turns. -/
noncomputable def principal (angle : ℝ) : ℝ := toIcoMod turn_pos 0 (angle + pi) - pi

variable {angle : ℝ}

theorem principal_mem (angle : ℝ) : principal angle ∈ Set.Ico (-pi) pi := by
  have hmem := toIcoMod_mem_Ico' Real.two_pi_pos (angle + pi)
  constructor <;> unfold principal <;> linarith [hmem.1, hmem.2]

theorem principal_add_turns (angle : ℝ) (k : ℤ) :
    principal (angle + k * (2 * pi)) = principal angle := by
  rw [principal, principal, add_right_comm, ← zsmul_eq_mul, toIcoMod_add_zsmul]

theorem neg_pi_lt_principal (h : ¬ Wrappable angle) : -pi < principal angle := by
  refine (principal_mem angle).1.lt_of_ne fun heq => h (Or.inr ?_)
  have hzero : toIcoMod Real.two_pi_pos 0 (angle + pi) = 0 := by
    unfold principal at heq
    linarith
  obtain ⟨-, k, hk⟩ := (toIcoMod_eq_iff Real.two_pi_pos).1 hzero
  exact ⟨k, by rw [hk, zsmul_eq_mul, zero_add]⟩

/-- `wrapAngleToPiRange` changes an angle by whole turns. -/
theorem wrapAngleToPiRange_eq_add (angle : ℝ) :
    ∃ k : ℤ, wrapAngleToPiRange angle = angle + k * (2 * pi) := by
  obtain ⟨k, hk⟩ := fmod_eq_add (angle + pi) (2 * pi)
  exact ⟨k, by rw [wrapAngleToPiRange, hk]; ring⟩

theorem wrapAngleToPiRange_mem_iff :
    wrapAngleToPiRange angle ∈ Set.Ico (-pi) pi ↔ Wrappable angle := by
  have hfmod := fmod_mem_Ico_iff Real.two_pi_pos (x := angle + pi)
  rw [← neg_le_iff_add_nonneg] at hfmod
  rw [Wrappable, ← hfmod, wrapAngleToPiRange, Set.mem_Ico, Set.mem_Ico, neg_le_sub_iff_le_add,
    sub_lt_iff_lt_add, le_add_iff_nonneg_left, two_mul]

theorem wrapAngleToPiRange_of_wrappable (h : Wrappable angle) :
    wrapAngleToPiRange angle = principal angle := by
  obtain ⟨hpos, hlt⟩ := wrapAngleToPiRange_mem_iff.2 h
  rw [wrapAngleToPiRange] at hpos hlt
  rw [wrapAngleToPiRange, principal,
    fmod_eq_toIcoMod Real.two_pi_pos (by linarith) (by linarith)]

theorem wrapAngleToPiRange_of_not_wrappable (h : ¬ Wrappable angle) :
    wrapAngleToPiRange angle = principal angle - 2 * pi := by
  obtain ⟨hlt, hturn⟩ := not_or.1 h
  rw [wrapAngleToPiRange, fmod_of_neg Real.two_pi_pos (by linarith) hturn, principal]
  ring

/-! ### The axis after some turns of its motor -/

/-- Motors whose angles wrap alike leave the axis at the same angle. -/
theorem refresh_congr (s : GimbalSubsystem n) {encoders encoders' : Fin n → Option Int64}
    (h : ∀ i, (encoders i).map (wrappedPitchAxisAngle c i) =
      (encoders' i).map (wrappedPitchAxisAngle c i)) :
    refresh c s encoders = refresh c s encoders' := by
  have hbody : refreshPitchMotor c encoders = refreshPitchMotor c encoders' := by
    funext l i
    have hi := h i
    unfold refreshPitchMotor
    cases he : encoders i <;> cases he' : encoders' i <;> simp_all
  rw [refresh, refresh, hbody]

/-- The angle of an axis with one motor. -/
theorem getCurrentPitchAxisAngle_refresh (c : PitchConstants 1) (s : GimbalSubsystem 1)
    (encoder : Int64) :
    (s.refresh c fun _ => some encoder).getCurrentPitchAxisAngle =
      (s.currentPitchAxisAngle.setWrappedValue (wrappedPitchAxisAngle c 0 encoder)).wrapped := by
  simp [refresh, refreshPitchMotor, getCurrentPitchAxisAngle, List.finRange_succ]

variable {c}

/-- Whole turns of a motor change its angle by whole turns. -/
theorem motorAngle_of_turns {encoder encoder' : Int64} {k : ℤ} (i : Fin n)
    (h : encoder'.toInt = encoder.toInt + k * ENC_RESOLUTION) :
    motorAngle c i encoder' = motorAngle c i encoder + k * (2 * pi) := by
  rw [motorAngle, motorAngle, DJIEncoderValueToRadians, DJIEncoderValueToRadians, h, ENC_RESOLUTION]
  push_cast
  ring

/-- Scaled by a reduction gear, an angle and the angle a motor turn below it are different angles of
the axis. -/
theorem setWrappedValue_turn_ne (w : WrappedFloat (-pi) pi) {g a : ℝ} (hg : 0 < g) (hg1 : g < 1)
    (ha : -pi < a) (ha' : a < pi) :
    (w.setWrappedValue (g * a)).wrapped ≠ (w.setWrappedValue (g * (a - 2 * pi))).wrapped := by
  have hpi := Real.pi_pos
  have hlow : -pi < g * a := by nlinarith
  have hhigh : g * a < pi := by nlinarith
  have hturn : g * (a - 2 * pi) = g * a - 2 * pi * g := by ring
  rw [WrappedFloat.setWrappedValue_of_mem w ⟨hlow.le, hhigh⟩]
  rcases lt_or_ge (g * (a - 2 * pi)) (-pi) with h | h
  · rw [WrappedFloat.setWrappedValue_of_lt w h (by nlinarith)]
    nlinarith
  · rw [WrappedFloat.setWrappedValue_of_mem w ⟨h, by nlinarith⟩]
    nlinarith

/-- `wrapAngleToPiRange` takes the angle into `[-π, π)` by whole turns. -/
def WrapsToPiRange (angle : ℝ) : Prop :=
  wrapAngleToPiRange angle ∈ Set.Ico (-pi) pi ∧
    ∃ k : ℤ, wrapAngleToPiRange angle = angle + k * (2 * pi)

theorem wrapsToPiRange_iff : WrapsToPiRange angle ↔ Wrappable angle :=
  (and_iff_left (wrapAngleToPiRange_eq_add angle)).trans wrapAngleToPiRange_mem_iff

/-- Whole turns change what `wrapAngleToPiRange` returns only between an angle that it takes into
range and one that it does not. -/
theorem wrapAngleToPiRange_add_turns {k : ℤ}
    (h : Wrappable angle ↔ Wrappable (angle + k * (2 * pi))) :
    wrapAngleToPiRange angle = wrapAngleToPiRange (angle + k * (2 * pi)) := by
  by_cases hw : Wrappable angle
  · rw [wrapAngleToPiRange_of_wrappable hw, wrapAngleToPiRange_of_wrappable (h.1 hw),
      principal_add_turns]
  · rw [wrapAngleToPiRange_of_not_wrappable hw,
      wrapAngleToPiRange_of_not_wrappable (mt h.2 hw), principal_add_turns]

/-- Of two angles that differ by whole turns, one in reach of `wrapAngleToPiRange` and one not, a
reduction gear makes different angles of the axis. -/
theorem setWrappedValue_wrap_ne (w : WrappedFloat (-pi) pi) {g : ℝ} (hg : 0 < g) (hg1 : g < 1)
    {angle' : ℝ} (hw : Wrappable angle) (hw' : ¬ Wrappable angle')
    (h : principal angle = principal angle') :
    (w.setWrappedValue (g * wrapAngleToPiRange angle)).wrapped ≠
      (w.setWrappedValue (g * wrapAngleToPiRange angle')).wrapped := by
  rw [wrapAngleToPiRange_of_wrappable hw, wrapAngleToPiRange_of_not_wrappable hw', h]
  exact setWrappedValue_turn_ne w hg hg1 (neg_pi_lt_principal hw') (principal_mem angle').2

/-- The constants of the hero. -/
noncomputable def heroConstants : PitchConstants 1 where
  GIMBAL_PITCH_GEAR_RATIO := 30 / 102
  PITCH_MOTOR_OFFSET_ANGLES _ := 333.45 * pi / 180
  gear_pos := by norm_num
  offset_mem _ := by
    have := Real.pi_pos
    constructor <;> linarith

/-- The hero's motor at the reading zero, more than half a turn below its offset. -/
theorem not_wrappable_hero : ¬ Wrappable (motorAngle heroConstants 0 0) := by
  have hpi := Real.pi_pos
  have hangle : motorAngle heroConstants 0 0 = -(333.45 * pi / 180) := by
    simp [motorAngle, heroConstants, DJIEncoderValueToRadians]
  rw [Wrappable, hangle]
  rintro (h | ⟨k, hk⟩)
  · linarith
  · have hneg : (k : ℝ) < 0 := by nlinarith
    have hgt : (-1 : ℝ) < k := by nlinarith
    have hneg' : k < 0 := by exact_mod_cast hneg
    have hgt' : -1 < k := by exact_mod_cast hgt
    omega

/-- One turn on the reading is within half a turn of the offset. -/
theorem wrappable_hero : Wrappable (motorAngle heroConstants 0 8192) := by
  have hpi := Real.pi_pos
  have hangle : motorAngle heroConstants 0 8192 =
      motorAngle heroConstants 0 0 + (1 : ℤ) * (2 * pi) :=
    motorAngle_of_turns 0 (by decide)
  left
  rw [hangle]
  simp [motorAngle, heroConstants, DJIEncoderValueToRadians]
  linarith

/-- **When the pitch axis does not see whole turns of its motor.**  Two readings of the encoder that
are whole turns apart are both taken into one turn, and into the same angle of the axis, exactly if
neither puts the motor below `-π`, unless by whole turns.  With a reduction gear
the axis is at the same angle exactly if both readings are of this kind or neither is. -/
theorem pitch_independent_iff (c : PitchConstants 1) (s : GimbalSubsystem 1)
    {encoder encoder' : Int64} {k : ℤ}
    (hturns : encoder'.toInt = encoder.toInt + k * ENC_RESOLUTION) :
    (WrapsToPiRange (motorAngle c 0 encoder) ∧ WrapsToPiRange (motorAngle c 0 encoder') ∧
        (s.refresh c fun _ => some encoder).getCurrentPitchAxisAngle =
          (s.refresh c fun _ => some encoder').getCurrentPitchAxisAngle ↔
      Wrappable (motorAngle c 0 encoder) ∧ Wrappable (motorAngle c 0 encoder')) ∧
    (c.GIMBAL_PITCH_GEAR_RATIO < 1 →
      ((s.refresh c fun _ => some encoder).getCurrentPitchAxisAngle =
          (s.refresh c fun _ => some encoder').getCurrentPitchAxisAngle ↔
        (Wrappable (motorAngle c 0 encoder) ↔ Wrappable (motorAngle c 0 encoder')))) := by
  have hangle := motorAngle_of_turns (c := c) 0 hturns
  have hsame (h : Wrappable (motorAngle c 0 encoder) ↔ Wrappable (motorAngle c 0 encoder')) :
      (s.refresh c fun _ => some encoder) = s.refresh c fun _ => some encoder' := by
    refine refresh_congr c s fun i => ?_
    rw [Subsingleton.elim i 0, Option.map_some, Option.map_some, wrappedPitchAxisAngle,
      wrappedPitchAxisAngle, hangle, wrapAngleToPiRange_add_turns (hangle ▸ h)]
  refine ⟨?_, fun hgear => ⟨fun heq => ?_, fun h => by rw [hsame h]⟩⟩
  · rw [wrapsToPiRange_iff, wrapsToPiRange_iff]
    constructor
    · exact fun h => ⟨h.1, h.2.1⟩
    · exact fun h => ⟨h.1, h.2, by rw [hsame (iff_of_true h.1 h.2)]⟩
  · have hprincipal : principal (motorAngle c 0 encoder) = principal (motorAngle c 0 encoder') := by
      rw [hangle, principal_add_turns]
    rw [getCurrentPitchAxisAngle_refresh, getCurrentPitchAxisAngle_refresh] at heq
    by_cases hw : Wrappable (motorAngle c 0 encoder) <;>
      by_cases hw' : Wrappable (motorAngle c 0 encoder')
    · exact iff_of_true hw hw'
    · exact absurd heq (setWrappedValue_wrap_ne _ c.gear_pos hgear hw hw' hprincipal)
    · exact absurd heq.symm (setWrappedValue_wrap_ne _ c.gear_pos hgear hw' hw hprincipal.symm)
    · exact iff_of_false hw hw'

theorem pitch_independent_iff_hero :
    (8192 : Int64).toInt = (0 : Int64).toInt + 1 * ENC_RESOLUTION ∧
      (WrapsToPiRange (motorAngle heroConstants 0 0) ∧
          WrapsToPiRange (motorAngle heroConstants 0 8192) ∧
          (construct.refresh heroConstants fun _ => some 0).getCurrentPitchAxisAngle =
            (construct.refresh heroConstants fun _ => some 8192).getCurrentPitchAxisAngle ↔
        Wrappable (motorAngle heroConstants 0 0) ∧ Wrappable (motorAngle heroConstants 0 8192)) :=
  ⟨by decide, (pitch_independent_iff heroConstants construct (k := 1) (by decide)).1⟩

/-- The hero's barrel in one place, at two readings of the encoder that are one turn of the motor
apart: `wrapAngleToPiRange` leaves the first angle out of range, and the axis is at two angles. -/
theorem hero_pitch_differs :
    (8192 : Int64).toInt = (0 : Int64).toInt + 1 * ENC_RESOLUTION ∧
      wrapAngleToPiRange (motorAngle heroConstants 0 0) ∉ Set.Ico (-pi) pi ∧
      (construct.refresh heroConstants fun _ => some 0).getCurrentPitchAxisAngle ≠
        (construct.refresh heroConstants fun _ => some 8192).getCurrentPitchAxisAngle := by
  have hw : ¬ Wrappable (motorAngle heroConstants 0 0) := not_wrappable_hero
  have hw' : Wrappable (motorAngle heroConstants 0 8192) := wrappable_hero
  have hangle : motorAngle heroConstants 0 8192 =
      motorAngle heroConstants 0 0 + (1 : ℤ) * (2 * pi) :=
    motorAngle_of_turns 0 (by decide)
  refine ⟨by decide, mt wrapAngleToPiRange_mem_iff.1 hw, ?_⟩
  rw [getCurrentPitchAxisAngle_refresh, getCurrentPitchAxisAngle_refresh]
  refine (setWrappedValue_wrap_ne _ heroConstants.gear_pos ?_ hw' hw ?_).symm
  · norm_num [heroConstants]
  · rw [hangle, principal_add_turns]

end GimbalSubsystem

end Aimbots.Gimbal
