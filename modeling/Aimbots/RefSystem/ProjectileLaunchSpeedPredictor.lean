import Aimbots.Library.Numerals
import Aimbots.RefSystem.RefHelperTurreted
import Aimbots.Tap.BoundedDeque
import Mathlib.Algebra.BigOperators.Group.List.Basic
import Mathlib.Algebra.Order.BigOperators.Group.List
import Mathlib.Algebra.Order.Field.Rat
import Mathlib.Tactic.Linarith

/-!
# `projectile_launch_speed_predictor.hpp`

The predicted launch speed is the mean of the last speeds that the referee has reported.  A call may
bring a launch, if its timestamp is a new one, and it may bring another speed limit, which makes the
predictor forget the launches before.  The sum that the predictor keeps never drifts from the speeds
that it keeps, and these are the last launches since the limit changed (`predictor_invariant`).
-/

namespace Aimbots.RefSystem

open Tap

/-- `THEORETICAL_MAX_LAUNCH_SPEED`. -/
def THEORETICAL_MAX_LAUNCH_SPEED : ℚ := 45

/-- The data members of `ProjectileLaunchSpeedPredictor`, for
`N = PROJECTILE_SPEED_HISTORY_SIZE`. -/
structure ProjectileLaunchSpeedPredictor (N : ℕ) where
  projectileSpeedHistory : BoundedDeque ℚ N
  pastProjectileVelocitySum : ℚ
  lastAllowedProjectileSpeed : ℚ
  previousLaunchDataReceivedTimestamp : UInt32

/-- The arguments of a call of `updatePredictedLaunchSpeed`. -/
structure LaunchCall where
  lastProjectileSpeed : ℚ
  allowedLaunchSpeed : ℚ
  launchDataTimestamp : UInt32
deriving DecidableEq, Repr

/-- `limitedProjectileSpeed`. -/
def LaunchCall.limitedProjectileSpeed (c : LaunchCall) : ℚ :=
  -- `std::clamp`
  max 0 (min c.lastProjectileSpeed THEORETICAL_MAX_LAUNCH_SPEED)

/-- `compareFloatClose(allowedLaunchSpeed, lastAllowedProjectileSpeed, 1E-5)`. -/
def LaunchCall.AllowsClose (c : LaunchCall) (lastAllowedProjectileSpeed : ℚ) : Prop :=
  |c.allowedLaunchSpeed - lastAllowedProjectileSpeed| ≤ 1 / 100000

instance (c : LaunchCall) (speed : ℚ) : Decidable (c.AllowsClose speed) := by
  unfold LaunchCall.AllowsClose; infer_instance

namespace ProjectileLaunchSpeedPredictor

variable {N : ℕ} [NeZero N]

/-- The constructor.  The buffer of the history is not initialised. -/
def construct (buffer : Fin N → ℚ) : ProjectileLaunchSpeedPredictor N :=
  ⟨.construct buffer, 0, 0, 0⟩

omit [NeZero N] in
/-- `getPredictedLaunchSpeed`. -/
def getPredictedLaunchSpeed (p : ProjectileLaunchSpeedPredictor N) : Option ℚ :=
  if p.projectileSpeedHistory.isEmpty then some p.lastAllowedProjectileSpeed
  else some (p.pastProjectileVelocitySum / p.projectileSpeedHistory.size)

/-- The first half of `updatePredictedLaunchSpeed`: a limit that has changed. -/
def adoptLimit (p : ProjectileLaunchSpeedPredictor N) (c : LaunchCall) :
    ProjectileLaunchSpeedPredictor N :=
  if ¬ c.AllowsClose p.lastAllowedProjectileSpeed then
    { p with
      projectileSpeedHistory := p.projectileSpeedHistory.clear
      pastProjectileVelocitySum := 0
      lastAllowedProjectileSpeed := c.allowedLaunchSpeed }
  else p

/-- The launch that is forgotten when the history is full. -/
def forgetFront (p : ProjectileLaunchSpeedPredictor N) : ProjectileLaunchSpeedPredictor N :=
  if p.projectileSpeedHistory.isFull then
    { p with
      pastProjectileVelocitySum := p.pastProjectileVelocitySum - p.projectileSpeedHistory.getFront
      projectileSpeedHistory := p.projectileSpeedHistory.removeFront }
  else p

/-- The second half of `updatePredictedLaunchSpeed`: a launch that is new. -/
def recordLaunch (p : ProjectileLaunchSpeedPredictor N) (c : LaunchCall) :
    ProjectileLaunchSpeedPredictor N :=
  if p.previousLaunchDataReceivedTimestamp ≠ c.launchDataTimestamp then
    { p.forgetFront with
      pastProjectileVelocitySum := p.forgetFront.pastProjectileVelocitySum +
        c.limitedProjectileSpeed
      projectileSpeedHistory := p.forgetFront.projectileSpeedHistory.append c.limitedProjectileSpeed
      previousLaunchDataReceivedTimestamp := c.launchDataTimestamp }
  else p

/-- `updatePredictedLaunchSpeed`. -/
def updatePredictedLaunchSpeed (p : ProjectileLaunchSpeedPredictor N) (c : LaunchCall) :
    ProjectileLaunchSpeedPredictor N :=
  (p.adoptLimit c).recordLaunch c

/-- The predictor after some calls, the last one first. -/
def after (buffer : Fin N → ℚ) : List LaunchCall → ProjectileLaunchSpeedPredictor N
  | [] => construct buffer
  | c :: calls => (after buffer calls).updatePredictedLaunchSpeed c

end ProjectileLaunchSpeedPredictor

/-! ### The launches of a sequence of calls -/

/-- A limit differs from another one by more than the tolerance. -/
def MoreThanTolerance (limit limit' : ℚ) : Prop := 1 / 100000 < |limit - limit'|

/-- A limit differs from another one by at least the tolerance. -/
def AtLeastTolerance (limit limit' : ℚ) : Prop := 1 / 100000 ≤ |limit - limit'|

instance : DecidableRel MoreThanTolerance := fun _ _ => by
  unfold MoreThanTolerance; infer_instance

instance : DecidableRel AtLeastTolerance := fun _ _ => by
  unfold AtLeastTolerance; infer_instance

/-- The timestamp of the last launch. -/
def launchTimestamp : List LaunchCall → UInt32
  | [] => 0
  | c :: calls =>
    if c.launchDataTimestamp ≠ launchTimestamp calls then c.launchDataTimestamp
    else launchTimestamp calls

section Changes

variable (Changes : ℚ → ℚ → Prop) [DecidableRel Changes]

/-- The limit that is in force after some calls, the last one first: it changes when a call brings
one that differs enough from it. -/
def allowedSpeed : List LaunchCall → ℚ
  | [] => 0
  | c :: calls =>
    if Changes c.allowedLaunchSpeed (allowedSpeed calls) then c.allowedLaunchSpeed
    else allowedSpeed calls

/-- The speeds of the launches since the limit changed, the last one first. -/
def launches : List LaunchCall → List ℚ
  | [] => []
  | c :: calls =>
    let before :=
      if Changes c.allowedLaunchSpeed (allowedSpeed Changes calls) then [] else launches calls
    if c.launchDataTimestamp ≠ launchTimestamp calls then c.limitedProjectileSpeed :: before
    else before

end Changes

theorem limitedProjectileSpeed_mem (c : LaunchCall) :
    c.limitedProjectileSpeed ∈ Set.Icc 0 THEORETICAL_MAX_LAUNCH_SPEED :=
  ⟨le_max_left _ _, max_le (by decide) (min_le_right _ _)⟩

theorem launches_mem (Changes : ℚ → ℚ → Prop) [DecidableRel Changes] (calls : List LaunchCall) :
    ∀ speed ∈ launches Changes calls, speed ∈ Set.Icc 0 THEORETICAL_MAX_LAUNCH_SPEED := by
  induction calls with
  | nil => exact fun _ hmem => nomatch hmem
  | cons c calls ih =>
    have hbefore : ∀ speed ∈ (if Changes c.allowedLaunchSpeed (allowedSpeed Changes calls) then []
        else launches Changes calls), speed ∈ Set.Icc 0 THEORETICAL_MAX_LAUNCH_SPEED := by
      split_ifs
      · exact fun _ hmem => nomatch hmem
      · exact ih
    rw [launches]
    by_cases hlaunch : c.launchDataTimestamp ≠ launchTimestamp calls
    · rw [if_pos hlaunch]
      exact List.forall_mem_cons.2 ⟨limitedProjectileSpeed_mem c, hbefore⟩
    · rw [if_neg hlaunch]
      exact hbefore

namespace ProjectileLaunchSpeedPredictor

variable {N : ℕ} {p : ProjectileLaunchSpeedPredictor N} {speeds : List ℚ}

/-- The predictor keeps the last of some speeds, and their sum. -/
structure Keeps (p : ProjectileLaunchSpeedPredictor N) (speeds : List ℚ) : Prop where
  queue : p.projectileSpeedHistory.IsQueue
  contents : p.projectileSpeedHistory.contents = (speeds.take N).reverse
  sum : p.pastProjectileVelocitySum = p.projectileSpeedHistory.contents.sum

/-- A full history forgets its front, so that there is room for another speed. -/
theorem Keeps.forgetFront (h : p.Keeps speeds) (hN : 0 < N) :
    p.forgetFront.projectileSpeedHistory.IsQueue ∧
      p.forgetFront.projectileSpeedHistory.contents = (speeds.take (N - 1)).reverse ∧
      p.forgetFront.pastProjectileVelocitySum =
        p.forgetFront.projectileSpeedHistory.contents.sum := by
  have hlength := p.projectileSpeedHistory.length_contents
  rw [h.contents, List.length_reverse] at hlength
  unfold ProjectileLaunchSpeedPredictor.forgetFront
  by_cases hfull : p.projectileSpeedHistory.isFull = true
  · have hsize : p.projectileSpeedHistory.size = N := beq_iff_eq.1 hfull
    obtain ⟨hqueue, hcontents⟩ := h.queue.removeFront (hsize.symm ▸ hN)
    rw [if_pos hfull]
    refine ⟨hqueue, ?_, ?_⟩
    · have htail : p.projectileSpeedHistory.removeFront.contents =
          (speeds.take N).reverse.tail := by
        rw [← h.contents, hcontents, List.tail_cons]
      rw [htail, List.tail_reverse, List.dropLast_eq_take, hlength, hsize, List.take_take,
        min_eq_left (Nat.sub_le N 1)]
    · rw [h.sum, hcontents, List.sum_cons, add_sub_cancel_left]
  · rw [if_neg hfull]
    have hsize : p.projectileSpeedHistory.size ≠ N := fun hsize => hfull (beq_iff_eq.2 hsize)
    rw [List.length_take] at hlength
    refine ⟨h.queue, ?_, h.sum⟩
    rw [h.contents, List.take_of_length_le (by omega), List.take_of_length_le (by omega)]

/-- **A launch** is kept with the `N - 1` before it. -/
theorem Keeps.recordLaunch [NeZero N] (h : p.Keeps speeds) {c : LaunchCall}
    (hlaunch : c.launchDataTimestamp ≠ p.previousLaunchDataReceivedTimestamp) :
    (p.recordLaunch c).Keeps (c.limitedProjectileSpeed :: speeds) := by
  have hN : 0 < N := Nat.pos_of_neZero N
  obtain ⟨hqueue, hcontents, hsum⟩ := h.forgetFront hN
  have hsize : p.forgetFront.projectileSpeedHistory.size < N := by
    rw [← BoundedDeque.length_contents, hcontents, List.length_reverse, List.length_take]
    omega
  obtain ⟨hqueue', hcontents'⟩ := hqueue.append hsize c.limitedProjectileSpeed
  rw [ProjectileLaunchSpeedPredictor.recordLaunch, if_pos hlaunch.symm]
  refine ⟨hqueue', ?_, ?_⟩
  · rw [hcontents', hcontents, show N = N - 1 + 1 by omega, List.take_succ_cons, List.reverse_cons,
      Nat.add_sub_cancel]
  · rw [hcontents', List.sum_append, List.sum_singleton, hsum]

/-- A predictor that has forgotten everything. -/
theorem keeps_nil [NeZero N] (hsum : p.pastProjectileVelocitySum = 0) (buffer : Fin N → ℚ)
    (hhistory : p.projectileSpeedHistory = .construct buffer) : p.Keeps [] where
  queue := hhistory ▸ BoundedDeque.isQueue_construct buffer
  contents := by rw [hhistory, BoundedDeque.contents_construct, List.take_nil, List.reverse_nil]
  sum := by rw [hhistory, BoundedDeque.contents_construct, hsum, List.sum_nil]

/-- What a predictor is after some calls. -/
structure Inv (p : ProjectileLaunchSpeedPredictor N) (calls : List LaunchCall) : Prop where
  keeps : p.Keeps (launches MoreThanTolerance calls)
  allowed : p.lastAllowedProjectileSpeed = allowedSpeed MoreThanTolerance calls
  timestamp : p.previousLaunchDataReceivedTimestamp = launchTimestamp calls

section Run

variable [NeZero N] {calls : List LaunchCall}

theorem inv_construct (buffer : Fin N → ℚ) : (construct buffer).Inv [] :=
  ⟨keeps_nil rfl buffer rfl, rfl, rfl⟩

/-- The first half of a call. -/
theorem Inv.adoptLimit (h : p.Inv calls) (c : LaunchCall) :
    (p.adoptLimit c).Keeps
        (if MoreThanTolerance c.allowedLaunchSpeed (allowedSpeed MoreThanTolerance calls) then []
          else launches MoreThanTolerance calls) ∧
      (p.adoptLimit c).lastAllowedProjectileSpeed = allowedSpeed MoreThanTolerance (c :: calls) ∧
      (p.adoptLimit c).previousLaunchDataReceivedTimestamp = launchTimestamp calls := by
  rw [ProjectileLaunchSpeedPredictor.adoptLimit, allowedSpeed, h.allowed]
  by_cases hclose : c.AllowsClose (allowedSpeed MoreThanTolerance calls)
  · have hsame : ¬ MoreThanTolerance c.allowedLaunchSpeed (allowedSpeed MoreThanTolerance calls) :=
      not_lt.2 hclose
    rw [if_neg (not_not.2 hclose), if_neg hsame, if_neg hsame]
    exact ⟨h.keeps, h.allowed, h.timestamp⟩
  · have hchanged : MoreThanTolerance c.allowedLaunchSpeed (allowedSpeed MoreThanTolerance calls) :=
      not_le.1 hclose
    rw [if_pos hclose, if_pos hchanged, if_pos hchanged]
    exact ⟨keeps_nil rfl _ rfl, rfl, h.timestamp⟩

omit [NeZero N] in
theorem lastAllowedProjectileSpeed_recordLaunch (p : ProjectileLaunchSpeedPredictor N)
    (c : LaunchCall) :
    (p.recordLaunch c).lastAllowedProjectileSpeed = p.lastAllowedProjectileSpeed := by
  unfold ProjectileLaunchSpeedPredictor.recordLaunch ProjectileLaunchSpeedPredictor.forgetFront
  split_ifs <;> rfl

/-- **A call** keeps the invariant. -/
theorem Inv.update (h : p.Inv calls) (c : LaunchCall) :
    (p.updatePredictedLaunchSpeed c).Inv (c :: calls) := by
  obtain ⟨hkeeps, hallowed, htimestamp⟩ := h.adoptLimit c
  have hallowed' := (lastAllowedProjectileSpeed_recordLaunch (p.adoptLimit c) c).trans hallowed
  by_cases hlaunch : c.launchDataTimestamp ≠ launchTimestamp calls
  · rw [← htimestamp] at hlaunch
    refine ⟨?_, hallowed', ?_⟩
    · rw [launches, ← htimestamp, if_pos hlaunch]
      exact hkeeps.recordLaunch hlaunch
    · rw [launchTimestamp, ← htimestamp, if_pos hlaunch, updatePredictedLaunchSpeed, recordLaunch,
        if_pos hlaunch.symm]
  · have hsame : (p.adoptLimit c).recordLaunch c = p.adoptLimit c := by
      rw [recordLaunch, htimestamp, if_neg fun hne => hlaunch hne.symm]
    rw [hsame] at hallowed'
    rw [updatePredictedLaunchSpeed, hsame]
    refine ⟨?_, hallowed', ?_⟩
    · rw [launches, if_neg hlaunch]
      exact hkeeps
    · rw [launchTimestamp, if_neg hlaunch, htimestamp]

theorem inv_after (buffer : Fin N → ℚ) (calls : List LaunchCall) :
    (after buffer calls).Inv calls := by
  induction calls with
  | nil => exact inv_construct buffer
  | cons c calls ih => exact ih.update c

/-- The mean of speeds between the bounds is between them. -/
theorem mean_mem {speeds : List ℚ} (hne : speeds ≠ [])
    (h : ∀ speed ∈ speeds, speed ∈ Set.Icc 0 THEORETICAL_MAX_LAUNCH_SPEED) :
    speeds.sum / speeds.length ∈ Set.Icc 0 THEORETICAL_MAX_LAUNCH_SPEED := by
  have hpos : (0 : ℚ) < speeds.length := Nat.cast_pos.2 (List.length_pos_iff.2 hne)
  have hsum : speeds.sum ≤ speeds.length • THEORETICAL_MAX_LAUNCH_SPEED :=
    List.sum_le_card_nsmul _ _ fun speed hmem => (h speed hmem).2
  rw [nsmul_eq_mul] at hsum
  refine ⟨div_nonneg (List.sum_nonneg fun speed hmem => (h speed hmem).1) hpos.le, ?_⟩
  rw [div_le_iff₀ hpos, mul_comm]
  exact hsum

/-- **What the predictor keeps.**  After any calls, the sum is that of the history; the history is
the speeds of the last launches since the limit changed by more than the tolerance, the oldest
first, and no more than `N`; and the prediction is between zero and the largest launch speed, or the
limit if there is no such launch. -/
theorem predictor_invariant (buffer : Fin N → ℚ) (calls : List LaunchCall) :
    let p := after buffer calls
    let history := p.projectileSpeedHistory.contents
    p.pastProjectileVelocitySum = history.sum ∧ history.length ≤ N ∧
      history = ((launches MoreThanTolerance calls).take N).reverse ∧
      (history ≠ [] → ∃ speed ∈ Set.Icc 0 THEORETICAL_MAX_LAUNCH_SPEED,
        p.getPredictedLaunchSpeed = some speed) ∧
      (history = [] →
        p.getPredictedLaunchSpeed = some (allowedSpeed MoreThanTolerance calls)) := by
  intro p history
  obtain ⟨hkeeps, hallowed, -⟩ := inv_after buffer calls
  have hlength : history.length = p.projectileSpeedHistory.size :=
    p.projectileSpeedHistory.length_contents
  refine ⟨hkeeps.sum, hlength ▸ hkeeps.queue.size_le, hkeeps.contents, fun hne => ?_,
    fun hnil => ?_⟩
  · have hmem : ∀ speed ∈ history, speed ∈ Set.Icc 0 THEORETICAL_MAX_LAUNCH_SPEED := by
      intro speed hspeed
      rw [show history = _ from hkeeps.contents, List.mem_reverse] at hspeed
      exact launches_mem MoreThanTolerance calls speed (List.mem_of_mem_take hspeed)
    have hempty : p.projectileSpeedHistory.isEmpty = false := by
      rw [BoundedDeque.isEmpty, beq_eq_false_iff_ne, ← hlength]
      exact mt List.length_eq_zero_iff.1 hne
    refine ⟨history.sum / history.length, mean_mem hne hmem, ?_⟩
    rw [getPredictedLaunchSpeed, hempty, if_neg Bool.false_ne_true, hlength]
    exact congrArg (fun sum => some (sum / _)) hkeeps.sum
  · have hempty : p.projectileSpeedHistory.isEmpty = true := by
      rw [BoundedDeque.isEmpty, ← hlength, hnil]
      rfl
    rw [getPredictedLaunchSpeed, hempty, if_pos rfl]
    exact congrArg some hallowed

end Run

open scoped Numerals in
/-- Four launches and a repeated report under one limit, and then one under another, the last one
first. -/
def mixedCalls : List LaunchCall :=
  [⟨15, 16, 6⟩, ⟨50, 30, 5⟩, ⟨28, 30, 4⟩, ⟨28, 30, 4⟩, ⟨-1, 30, 3⟩, ⟨29, 30, 2⟩]

open scoped Numerals in
theorem predictor_invariant_mixedCalls :
    (after (fun _ : Fin 3 => 0) mixedCalls).pastProjectileVelocitySum =
      (after (fun _ : Fin 3 => 0) mixedCalls).projectileSpeedHistory.contents.sum :=
  (predictor_invariant (fun _ : Fin 3 => 0) mixedCalls).1

/-- Under a limit that changes by exactly the tolerance the launch before is not forgotten. -/
theorem history_of_tolerance :
    (after (fun _ : Fin 10 => 0)
        [⟨20, 1 / 100000, 2⟩, ⟨10, 0, 1⟩]).projectileSpeedHistory.contents = [10, 20] ∧
      ((launches AtLeastTolerance [⟨20, 1 / 100000, 2⟩, ⟨10, 0, 1⟩]).take 10).reverse = [20] := by
  decide +kernel

open scoped Numerals in
example :
    (after (fun _ : Fin 3 => 0) mixedCalls.tail).projectileSpeedHistory.contents = [0, 28, 45] ∧
    (after (fun _ : Fin 3 => 0) mixedCalls).projectileSpeedHistory.contents = [15] := by
  decide +kernel

/-! ### The helper's updates -/

/-- What the referee reports of a launch, and the barrel that the helper refers to. -/
structure LaunchReport where
  currBarrelID : BarrelID
  bulletSpeed : ℚ
  lastReceivedLaunchingInfoTimestamp : UInt32

/-- `getCurrBarrelProjectileSpeedLimit`. -/
def getCurrBarrelProjectileSpeedLimit : BarrelID → Option UInt16
  | .TURRET_17MM_1 => some 30
  | .TURRET_17MM_2 => some 30
  | .TURRET_42MM => some 16
  | .other _ => none

/-- The call of `updatePredictedLaunchSpeed` that `updatePredictedProjectileSpeed` makes. -/
def LaunchReport.call (r : LaunchReport) : Option LaunchCall :=
  (getCurrBarrelProjectileSpeedLimit r.currBarrelID).map fun limit =>
    ⟨r.bulletSpeed, limit.toNat, r.lastReceivedLaunchingInfoTimestamp⟩

/-- `updatePredictedProjectileSpeed`. -/
def updatePredictedProjectileSpeed [NeZero N] (p : ProjectileLaunchSpeedPredictor N)
    (r : LaunchReport) : ProjectileLaunchSpeedPredictor N :=
  match r.call with
  | none => p
  | some c => p.updatePredictedLaunchSpeed c

/-- The helper's updates, of which the last one is first, are calls of the predictor. -/
theorem foldr_updatePredictedProjectileSpeed [NeZero N] (buffer : Fin N → ℚ)
    (reports : List LaunchReport) :
    reports.foldr (fun r p => updatePredictedProjectileSpeed p r) (construct buffer) =
      after buffer (reports.filterMap LaunchReport.call) := by
  induction reports with
  | nil => rfl
  | cons r reports ih =>
    rw [List.foldr_cons, ih, updatePredictedProjectileSpeed, List.filterMap_cons]
    cases r.call <;> rfl

end ProjectileLaunchSpeedPredictor

end Aimbots.RefSystem
