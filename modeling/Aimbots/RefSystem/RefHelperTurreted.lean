import Aimbots.Library.Rounding

/-!
# `ref_helper_turreted.cpp`: heat and the feeder's allowance

The part of `RefereeHelperTurreted` that turns the heat of the current barrel into projectiles and
the projectiles into encoder ticks, with the widths of the code: a `uint16_t` difference, a
`uint8_t` number of projectiles, a `float` quotient.

* `getRemainingProjectiles_eq` and `projectilesRemaining_eq` say what the first two are;
* `ticks_ten` and `ticks_inv`: from there on nothing is lost, the ticks are the projectiles' share
  of the encoder's resolution, rounded down.
-/

namespace Aimbots.RefSystem

/-- `RefSerialData::Rx::MechanismID`; a byte off the wire may be no enumerator. -/
inductive BarrelID
  | TURRET_17MM_1
  | TURRET_17MM_2
  | TURRET_42MM
  | other (id : UInt8)
deriving DecidableEq, Repr

/-- `RefSerialData::Rx::BulletType`. -/
inductive BulletType
  | AMMO_17
  | AMMO_42
deriving DecidableEq, Repr

/-- What the helper reads of the referee's turret data. -/
structure TurretData where
  heat17ID1 : UInt16
  heat17ID2 : UInt16
  heat42 : UInt16
  heatLimit : UInt16
deriving DecidableEq, Repr

/-- `heatGainedPerProjectile`. -/
def heatGainedPerProjectile : BulletType → ℕ
  | .AMMO_17 => 10
  | .AMMO_42 => 100

/-- `DJIMotor::ENC_RESOLUTION`. -/
def ENC_RESOLUTION : ℕ := 8192

/-- The projectiles that a barrel shoots; `none` is the default case of the switches. -/
def BarrelID.projectileType : BarrelID → Option BulletType
  | .TURRET_17MM_1 => some .AMMO_17
  | .TURRET_17MM_2 => some .AMMO_17
  | .TURRET_42MM => some .AMMO_42
  | .other _ => none

/-- What `RefereeHelperTurreted` works on: the referee's data and the barrel it refers to. -/
structure RefereeHelperTurreted where
  turretData : TurretData
  currBarrelID : BarrelID
deriving DecidableEq, Repr

namespace RefereeHelperTurreted

/-- `getCurrBarrelHeat()`. -/
def getCurrBarrelHeat (r : RefereeHelperTurreted) : UInt16 :=
  match r.currBarrelID with
  | .TURRET_17MM_1 => r.turretData.heat17ID1
  | .TURRET_17MM_2 => r.turretData.heat17ID2
  | .TURRET_42MM => r.turretData.heat42
  | .other _ => 1

/-- `getCurrBarrelLimit()`. -/
def getCurrBarrelLimit (r : RefereeHelperTurreted) : UInt16 := r.turretData.heatLimit

/-- `canCurrBarrelShootSafely()`, in `int`; the tolerance is an argument of the constructor. -/
def canCurrBarrelShootSafely (safetyHeatTolerance : ℤ) (r : RefereeHelperTurreted) : Bool :=
  match r.currBarrelID.projectileType with
  | none => true
  | some projectileType =>
    decide ((r.getCurrBarrelHeat.toNat : ℤ) + heatGainedPerProjectile projectileType +
      safetyHeatTolerance < r.getCurrBarrelLimit.toNat)

/-- `getRemainingProjectiles()`; the default case returns `true`. -/
def getRemainingProjectiles (r : RefereeHelperTurreted) : UInt8 :=
  match r.currBarrelID.projectileType with
  | none => 1
  | some projectileType =>
    let remainingHeat : UInt16 := r.getCurrBarrelLimit - r.getCurrBarrelHeat
    UInt8.ofNat (remainingHeat.toNat / heatGainedPerProjectile projectileType)

/-- The local variable `projectilesRemaining` of `getAllowableFeederRotation`: an `int` difference
that is stored in a `uint8_t`. -/
def projectilesRemaining (r : RefereeHelperTurreted) (projectileBuffer : ℕ) : UInt8 :=
  UInt8.ofNat (((r.getRemainingProjectiles.toNat : ℤ) - projectileBuffer) % 256).toNat

/-- `getAllowableFeederRotation(projectileBuffer)`, for a robot whose feeder shoots
`PROJECTILES_PER_FEEDER_ROTATION` projectiles in one rotation. -/
def getAllowableFeederRotation (PROJECTILES_PER_FEEDER_ROTATION : ℚ) (r : RefereeHelperTurreted)
    (projectileBuffer : ℕ) : ℕ :=
  let maxRotations := Format.binary32.round
    ((r.projectilesRemaining projectileBuffer).toNat / PROJECTILES_PER_FEEDER_ROTATION)
  let encoderChangeThreshold := truncate (Format.binary32.round (ENC_RESOLUTION * maxRotations))
  encoderChangeThreshold.toNat

end RefereeHelperTurreted

/-! ### From projectiles to encoder ticks -/

theorem abs_div_ten_lt {n : ℕ} (hn : n ≤ 255) : |(n : ℚ) / 10| < 2 ^ (5 : ℤ) := by
  have hn' : (n : ℚ) ≤ 255 := by exact_mod_cast hn
  rw [abs_of_nonneg (by positivity)]
  norm_num
  linarith

/-- Half rotations are exact, and so are their ticks. -/
theorem ticks_ten_of_dvd {n : ℕ} (hn : n ≤ 255) (h5 : 5 ∣ n) :
    truncate (Format.binary32.round (ENC_RESOLUTION * Format.binary32.round (n / 10))) =
      (8192 * n / 10 : ℕ) := by
  have hx := abs_div_ten_lt hn
  obtain ⟨m, rfl⟩ := h5
  have hhalf : Format.binary32.round ((5 * m : ℕ) / 10 : ℚ) = (5 * m : ℕ) / 10 := by
    refine Format.round_eq_self (e := -1)
      ((Format.exponent_le _ (by norm_num) hx (by decide)).trans (by decide)) ⟨m, ?_⟩
    push_cast
    ring
  have hint : ((ENC_RESOLUTION : ℕ) : ℚ) * ((5 * m : ℕ) / 10) = ((4096 * m : ℕ) : ℤ) := by
    rw [ENC_RESOLUTION]
    push_cast
    ring
  rw [hhalf, hint, Format.round_intCast (by rw [abs_lt]; omega), truncate_intCast]
  omega

/-- The ticks for `n` projectiles, at ten projectiles in one rotation: the quotient is rounded
twice on the way, but by less than what a fifth of a tick is. -/
theorem ticks_ten {n : ℕ} (hn : n ≤ 255) :
    truncate (Format.binary32.round (ENC_RESOLUTION * Format.binary32.round (n / 10))) =
      (8192 * n / 10 : ℕ) := by
  by_cases h5 : 5 ∣ n
  · exact ticks_ten_of_dvd hn h5
  · have hn' : (n : ℚ) ≤ 255 := by exact_mod_cast hn
    have hn0 : (0 : ℚ) ≤ n := Nat.cast_nonneg n
    have herr := Format.abs_round_sub_le_of_lt (F := Format.binary32) (by norm_num)
      (abs_div_ten_lt hn) (by decide)
    rw [abs_le, show (5 : ℤ) - Format.binary32.precision = -19 by decide] at herr
    obtain ⟨h₀, h₁⟩ := herr
    norm_num at h₀ h₁
    set q := Format.binary32.round ((n : ℚ) / 10) with hq
    have hy : |(ENC_RESOLUTION : ℚ) * q| < 2 ^ (18 : ℤ) := by
      rw [abs_lt, ENC_RESOLUTION]
      norm_num
      constructor <;> linarith
    have herr' := Format.abs_round_sub_le_of_lt (F := Format.binary32) (by norm_num) hy (by decide)
    rw [abs_le, show (18 : ℤ) - Format.binary32.precision = -6 by decide, ENC_RESOLUTION] at herr'
    obtain ⟨h₂, h₃⟩ := herr'
    norm_num at h₂ h₃
    -- the ticks are not an integer, and not within a fifth of one
    obtain ⟨N, r, hN, hr, hr'⟩ : ∃ N r : ℕ, 8192 * n = 10 * N + r ∧ 2 ≤ r ∧ r ≤ 8 :=
      ⟨8192 * n / 10, 8192 * n % 10, by omega, by omega, by omega⟩
    have hNq : (8192 : ℚ) * n = 10 * N + r := by exact_mod_cast hN
    have hrq : (2 : ℚ) ≤ r := by exact_mod_cast hr
    have hrq' : (r : ℚ) ≤ 8 := by exact_mod_cast hr'
    rw [show 8192 * n / 10 = N by omega, ENC_RESOLUTION]
    push_cast
    refine truncate_eq_of_nonneg ?_ ?_
    · linarith
    · linarith

/-- At one projectile in `1 / k` rotations the ticks are exact. -/
theorem ticks_inv {n k : ℕ} (hn : n ≤ 255) (hk : k ≤ 2) :
    truncate (Format.binary32.round (ENC_RESOLUTION * Format.binary32.round (n * k))) =
      (8192 * (n * k) : ℕ) := by
  have hnk : n * k ≤ 510 := by nlinarith
  have hx : (n : ℚ) * k = ((n * k : ℕ) : ℤ) := by push_cast; rfl
  have hy : (ENC_RESOLUTION : ℚ) * ((n * k : ℕ) : ℤ) = ((8192 * (n * k) : ℕ) : ℤ) := by
    rw [ENC_RESOLUTION]
    push_cast
    rfl
  rw [hx, Format.round_intCast (by rw [abs_lt]; omega), hy,
    Format.round_intCast (by rw [abs_lt]; omega), truncate_intCast]

namespace RefereeHelperTurreted

variable {r : RefereeHelperTurreted} {type : BulletType}

/-- The heat that is left, as the code computes it, in projectiles. -/
theorem getRemainingProjectiles_eq (htype : r.currBarrelID.projectileType = some type) :
    (r.getRemainingProjectiles.toNat : ℤ) =
      ((r.getCurrBarrelLimit.toNat : ℤ) - r.getCurrBarrelHeat.toNat) % 65536 /
        heatGainedPerProjectile type % 256 := by
  have hL := r.getCurrBarrelLimit.toNat_lt
  have hh := r.getCurrBarrelHeat.toNat_lt
  simp only [getRemainingProjectiles, htype, UInt8.toNat_ofNat', UInt16.toNat_sub]
  push_cast
  congr 2
  omega

theorem projectilesRemaining_eq (r : RefereeHelperTurreted) (b : ℕ) :
    ((r.projectilesRemaining b).toNat : ℤ) = ((r.getRemainingProjectiles.toNat : ℤ) - b) % 256 := by
  rw [projectilesRemaining, UInt8.toNat_ofNat']
  omega

end RefereeHelperTurreted

end Aimbots.RefSystem
