import Aimbots.RefSystem.RefHelperTurreted

/-!
# `ref_helper_turreted.cpp`: whether a barrel may shoot

`canSpecificBarrelShootSafely` asks of any barrel what `canCurrBarrelShootSafely` asks of the
current one, without the tolerance, but has kept a clause that is commented out there: it lets any
barrel shoot of which one projectile alone brings as much heat as the limit.  The two agree, and
both are safe, exactly for the limits above the heat of a projectile (`gatesAgree_iff`).
-/

namespace Aimbots.RefSystem

namespace RefereeHelperTurreted

/-- The comparison of `canSpecificBarrelShootSafely`, in `int`. -/
def underLimitOrAlone (lastHeat heatLimit : UInt16) (projectileType : BulletType) : Bool :=
  decide (lastHeat.toNat + heatGainedPerProjectile projectileType < heatLimit.toNat) ||
    decide (heatGainedPerProjectile projectileType ≥ heatLimit.toNat)

/-- `canSpecificBarrelShootSafely`. -/
def canSpecificBarrelShootSafely (r : RefereeHelperTurreted) : BarrelID → Bool
  | .TURRET_17MM_1 => underLimitOrAlone r.turretData.heat17ID1 r.turretData.heatLimit .AMMO_17
  | .TURRET_17MM_2 => underLimitOrAlone r.turretData.heat17ID2 r.turretData.heatLimit .AMMO_17
  | .TURRET_42MM => underLimitOrAlone r.turretData.heat42 r.turretData.heatLimit .AMMO_42
  | .other _ => true

end RefereeHelperTurreted

variable (safetyHeatTolerance : ℤ) (r : RefereeHelperTurreted)

/-- The heat of the current barrel after one more projectile. -/
def heatAfter (type : BulletType) : ℕ := r.getCurrBarrelHeat.toNat + heatGainedPerProjectile type

/-- **What the gates are to be**: the same for the current barrel if there is no tolerance, and open
for a barrel only if one more projectile leaves its heat below the limit. -/
def GatesAgree : Prop :=
  (safetyHeatTolerance = 0 → r.canSpecificBarrelShootSafely r.currBarrelID =
    r.canCurrBarrelShootSafely safetyHeatTolerance) ∧
  ∀ type, r.currBarrelID.projectileType = some type →
    r.canCurrBarrelShootSafely safetyHeatTolerance = true ∨
      r.canSpecificBarrelShootSafely r.currBarrelID = true →
    heatAfter r type < r.getCurrBarrelLimit.toNat

variable {r} {type : BulletType}

theorem canCurrBarrelShootSafely_iff (h : r.currBarrelID.projectileType = some type) :
    r.canCurrBarrelShootSafely safetyHeatTolerance = true ↔
      (heatAfter r type : ℤ) + safetyHeatTolerance < r.getCurrBarrelLimit.toNat := by
  rw [RefereeHelperTurreted.canCurrBarrelShootSafely, h, heatAfter]
  push_cast
  exact decide_eq_true_iff

theorem canSpecificBarrelShootSafely_iff (h : r.currBarrelID.projectileType = some type) :
    r.canSpecificBarrelShootSafely r.currBarrelID = true ↔
      heatAfter r type < r.getCurrBarrelLimit.toNat ∨
        r.getCurrBarrelLimit.toNat ≤ heatGainedPerProjectile type := by
  unfold heatAfter RefereeHelperTurreted.getCurrBarrelHeat RefereeHelperTurreted.getCurrBarrelLimit
  cases hbarrel : r.currBarrelID with
  | other id =>
    rw [hbarrel] at h
    cases h
  | TURRET_17MM_1 | TURRET_17MM_2 | TURRET_42MM =>
    rw [hbarrel] at h
    cases h
    rw [RefereeHelperTurreted.canSpecificBarrelShootSafely,
      RefereeHelperTurreted.underLimitOrAlone, Bool.or_eq_true, decide_eq_true_iff,
        decide_eq_true_iff]

/-- Both gates are open for what is no barrel. -/
theorem gates_of_none (h : r.currBarrelID.projectileType = none) :
    r.canCurrBarrelShootSafely safetyHeatTolerance = true ∧
      r.canSpecificBarrelShootSafely r.currBarrelID = true := by
  rw [RefereeHelperTurreted.canCurrBarrelShootSafely, h]
  cases hbarrel : r.currBarrelID with
  | other id => exact ⟨rfl, rfl⟩
  | TURRET_17MM_1 | TURRET_17MM_2 | TURRET_42MM =>
    rw [hbarrel] at h
    cases h

/-- **When the gates agree.**  For every heat, heat limit, barrel and tolerance: exactly if the
barrel is none of the three, or one projectile brings less heat than the limit, and the tolerance
does not open the gate of the current barrel where one more projectile reaches the limit. -/
theorem gatesAgree_iff (safetyHeatTolerance : ℤ) (r : RefereeHelperTurreted) :
    GatesAgree safetyHeatTolerance r ↔
      ∀ type, r.currBarrelID.projectileType = some type →
        heatGainedPerProjectile type < r.getCurrBarrelLimit.toNat ∧
          (r.getCurrBarrelLimit.toNat ≤ heatAfter r type →
            (r.getCurrBarrelLimit.toNat : ℤ) ≤ heatAfter r type + safetyHeatTolerance) := by
  unfold GatesAgree
  cases htype : r.currBarrelID.projectileType with
  | none =>
    obtain ⟨hcurr, hspecific⟩ := gates_of_none safetyHeatTolerance htype
    rw [hcurr, hspecific]
    simp
  | some type =>
    have hcurr := canCurrBarrelShootSafely_iff safetyHeatTolerance htype
    have hspecific := canSpecificBarrelShootSafely_iff htype
    have hafter : heatGainedPerProjectile type ≤ heatAfter r type := Nat.le_add_left _ _
    simp only [Option.some.injEq, forall_eq', hcurr, hspecific, Bool.eq_iff_iff]
    omega

/-- The hero's barrel at a limit of 100 and any heat: the gate for any barrel is open. -/
theorem open_at_limit_of_projectile :
    let r : RefereeHelperTurreted := ⟨⟨0, 0, 50, 100⟩, .TURRET_42MM⟩
    r.canSpecificBarrelShootSafely r.currBarrelID = true ∧ r.canCurrBarrelShootSafely 0 = false ∧
      heatAfter r .AMMO_42 = 150 ∧ ¬ GatesAgree 0 r := by
  refine ⟨by decide, by decide, by decide, fun h => ?_⟩
  exact absurd (h.1 rfl) (by decide)

end Aimbots.RefSystem
