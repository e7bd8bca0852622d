import Aimbots.Library.Numerals
import Aimbots.Library.Run
import Aimbots.Tap.Timeout
import Aimbots.Tap.WrappedFloat
import Mathlib.Analysis.SpecialFunctions.Trigonometric.Basic
import Mathlib.Algebra.Order.Archimedean.Real.Basic

/-!
# `kinematics/hitTracker.cpp`

`recentlyHit` restarts a timer when the referee system reports damage, and answers that the timer
has not run out.  A timer that is stopped has not run out either: until damage is reported for the
first time the answer is that the robot was hit.  And a timer that is set when the clock is about to
overflow has run out at once.

A run is a sequence of calls of `recentlyHit` and of the two functions that ask it, with a log of
them, the last one first; `lastHit` is the last call of a log that saw damage.
-/

namespace Aimbots.Informants

open Run Tap
open scoped Numerals
open Real (pi)

/-- `HIT_EXPIRE_TIME`. -/
def HIT_EXPIRE_TIME : UInt32 := 5000

/-- The angle that stands for no hit. -/
noncomputable def NO_HIT : ℝ := 69.0

/-- The functions that a call can be of. -/
inductive HitGetter
  | recentlyHit
  | getHitAngle_chassisRelative
  | getHitAngle_gimbalRelative
deriving DecidableEq

/-- A call: its time, what the referee system reports, and the angle of the gimbal. -/
structure HitCall where
  getter : HitGetter
  now : UInt32
  receivedDps : ℚ
  damagedArmorId : UInt8
  gimbalAngle : ℝ

/-- `wasHit`. -/
def HitCall.wasHit (c : HitCall) : Bool := decide (c.receivedDps ≠ 0)

/-- `HitTracker`. -/
structure HitTracker where
  hitTimer : Timeout

namespace HitTracker

/-- `initalize`. -/
def initalize (t : HitTracker) : HitTracker := { t with hitTimer := t.hitTimer.stop }

/-- `recentlyHit`. -/
def recentlyHit (t : HitTracker) (c : HitCall) : Bool × HitTracker :=
  let t := if c.wasHit then { t with hitTimer := t.hitTimer.restart c.now HIT_EXPIRE_TIME } else t
  (!t.hitTimer.isExpired c.now, t)

/-- The angle of a panel, in `getHitAngle_chassisRelative`. -/
noncomputable def panelAngle (panel : UInt8) : ℝ :=
  if panel = 0 then 0
  else if panel = 1 then pi / 2
  else if panel = 2 then pi
  else if panel = 3 then -pi / 2
  else 0

/-- `getHitAngle_chassisRelative`. -/
noncomputable def getHitAngle_chassisRelative (t : HitTracker) (c : HitCall) : ℝ × HitTracker :=
  let hit := t.recentlyHit c
  if !hit.1 then (NO_HIT, hit.2) else (panelAngle c.damagedArmorId, hit.2)

/-- `getHitAngle_gimbalRelative`. -/
noncomputable def getHitAngle_gimbalRelative (t : HitTracker) (c : HitCall) : ℝ × HitTracker :=
  let chassis := t.getHitAngle_chassisRelative c
  if chassis.1 = NO_HIT then (NO_HIT, chassis.2)
  else
    let hitAngle : WrappedFloat (-pi) pi := WrappedFloat.construct (c.gimbalAngle + chassis.1)
    (hitAngle.wrapped, chassis.2)

/-- The tracker after a call. -/
noncomputable def call (t : HitTracker) (c : HitCall) : HitTracker :=
  match c.getter with
  | .recentlyHit => (t.recentlyHit c).2
  | .getHitAngle_chassisRelative => (t.getHitAngle_chassisRelative c).2
  | .getHitAngle_gimbalRelative => (t.getHitAngle_gimbalRelative c).2

/-- The angle that a call returns, if it is of a function that returns one. -/
noncomputable def angle? (t : HitTracker) (c : HitCall) : Option ℝ :=
  match c.getter with
  | .recentlyHit => none
  | .getHitAngle_chassisRelative => some (t.getHitAngle_chassisRelative c).1
  | .getHitAngle_gimbalRelative => some (t.getHitAngle_gimbalRelative c).1

/-! ### The angles -/

theorem panelAngle_ne_noHit (panel : UInt8) : panelAngle panel ≠ NO_HIT := by
  have hpi := Real.pi_le_four
  have hpos := Real.pi_pos
  unfold panelAngle NO_HIT
  split_ifs <;> norm_num <;> linarith

/-- The chassis angle is that of no hit exactly if the robot was not hit recently. -/
theorem chassisRelative_eq_noHit_iff (t : HitTracker) (c : HitCall) :
    (t.getHitAngle_chassisRelative c).1 = NO_HIT ↔ (t.recentlyHit c).1 = false := by
  unfold getHitAngle_chassisRelative
  cases hhit : (t.recentlyHit c).1 with
  | false => simp [hhit]
  | true => simpa [hhit] using panelAngle_ne_noHit c.damagedArmorId

/-- The gimbal angle is that of no hit, or one between the bounds. -/
theorem gimbalRelative_cases (t : HitTracker) (c : HitCall) :
    ((t.recentlyHit c).1 = false ∧ (t.getHitAngle_gimbalRelative c).1 = NO_HIT) ∨
      ((t.recentlyHit c).1 = true ∧ (t.getHitAngle_gimbalRelative c).1 ∈ Set.Icc (-pi) pi) := by
  unfold getHitAngle_gimbalRelative
  by_cases hchassis : (t.getHitAngle_chassisRelative c).1 = NO_HIT
  · exact Or.inl ⟨(chassisRelative_eq_noHit_iff t c).1 hchassis, by simp [hchassis]⟩
  · have hhit : (t.recentlyHit c).1 = true := by
      rw [chassisRelative_eq_noHit_iff, Bool.not_eq_false] at hchassis
      exact hchassis
    refine Or.inr ⟨hhit, ?_⟩
    simp only [if_neg hchassis]
    exact WrappedFloat.wrapped_wrapValue_mem _ (by linarith [Real.pi_pos])

/-- Every function leaves the tracker that `recentlyHit` leaves. -/
theorem call_eq (t : HitTracker) (c : HitCall) : t.call c = (t.recentlyHit c).2 := by
  have hchassis : (t.getHitAngle_chassisRelative c).2 = (t.recentlyHit c).2 := by
    unfold getHitAngle_chassisRelative
    dsimp only
    split <;> rfl
  unfold call
  cases c.getter with
  | recentlyHit => rfl
  | getHitAngle_chassisRelative => exact hchassis
  | getHitAngle_gimbalRelative =>
    rw [← hchassis]
    unfold getHitAngle_gimbalRelative
    dsimp only
    split <;> rfl

end HitTracker

/-! ### The last hit of a log -/

/-- The time of the last call that saw damage. -/
def lastHit : List HitCall → Option UInt32
  | [] => none
  | c :: log => if c.wasHit then some c.now else lastHit log

/-- A call saw damage less than the expiry time before `now`. -/
def HitWithin (now : UInt32) (log : List HitCall) : Prop :=
  ∃ c ∈ log, c.wasHit = true ∧ now.toNat < c.now.toNat + HIT_EXPIRE_TIME.toNat

/-- The calls of a log did not go back in time. -/
def InOrder (log : List HitCall) : Prop := log.Pairwise fun c d => d.now ≤ c.now

variable {log : List HitCall} {t : UInt32}

theorem lastHit_eq_none_iff : lastHit log = none ↔ ∀ c ∈ log, c.wasHit = false := by
  induction log with
  | nil => simp [lastHit]
  | cons c log ih => cases hc : c.wasHit <;> simp [lastHit, hc, ih]

/-- Of the calls that saw damage, the last one of a log is the latest. -/
theorem hitWithin_iff (horder : InOrder log) (now : UInt32) (hlast : lastHit log = some t) :
    HitWithin now log ↔ now.toNat < t.toNat + HIT_EXPIRE_TIME.toNat := by
  induction log with
  | nil => nomatch hlast
  | cons c log ih =>
    obtain ⟨hle, hrest⟩ := List.pairwise_cons.1 horder
    cases hc : c.wasHit with
    | true =>
      obtain rfl : c.now = t := by simpa [lastHit, hc] using hlast
      constructor
      · rintro ⟨d, hd, -, hlt⟩
        rcases List.mem_cons.1 hd with rfl | hd
        · exact hlt
        · have := UInt32.le_iff_toNat_le.1 (hle d hd)
          omega
      · exact fun hlt => ⟨c, List.mem_cons_self, hc, hlt⟩
    | false =>
      rw [← ih hrest (by simpa [lastHit, hc] using hlast)]
      simp [HitWithin, hc]

theorem not_hitWithin (now : UInt32) (hlast : lastHit log = none) : ¬ HitWithin now log := by
  rintro ⟨c, hc, hhit, -⟩
  rw [lastHit_eq_none_iff.1 hlast c hc] at hhit
  exact Bool.false_ne_true hhit

/-! ### Runs -/

namespace HitTracker

/-- A step of a run: the tracker and its log. -/
noncomputable def next (s : HitTracker × List HitCall) (c : HitCall) : HitTracker × List HitCall :=
  (s.1.call c, c :: s.2)

/-- The timer is stopped, or it was set by the last call that saw damage. -/
structure Inv (s : HitTracker × List HitCall) : Prop where
  stopped : lastHit s.2 = none → s.1.hitTimer.isRunning = false
  running : ∀ t, lastHit s.2 = some t → s.1.hitTimer = ⟨true, false, t + HIT_EXPIRE_TIME⟩
  inOrder : InOrder s.2

/-- A call does not come before those that were made. -/
def NotBefore (s : HitTracker × List HitCall) (c : HitCall) : Prop := ∀ d ∈ s.2, d.now ≤ c.now

/-- **A call answers right**: `recentlyHit`, in whatever function it is asked, is true if and only
if damage was seen recently; and as long as none was seen, an angle is that of no hit. -/
def AnswersRight (s : HitTracker × List HitCall) (c : HitCall) : Prop :=
  ((s.1.recentlyHit c).1 = true ↔ HitWithin c.now (c :: s.2)) ∧
    (lastHit (c :: s.2) = none → ∀ a, s.1.angle? c = some a → a = NO_HIT)

/-- Damage was seen, and the timer that was then set runs out before the clock overflows. -/
def TimerInRange (s : HitTracker × List HitCall) (c : HitCall) : Prop :=
  ∃ t, lastHit (c :: s.2) = some t ∧ t.toNat + HIT_EXPIRE_TIME.toNat < UInt32.size

variable {s : HitTracker × List HitCall} {c : HitCall}

theorem Inv.next (hs : Inv s) (hc : NotBefore s c) : Inv (next s c) := by
  refine ⟨fun h => ?_, fun t h => ?_, List.pairwise_cons.2 ⟨hc, hs.inOrder⟩⟩
  · change (s.1.call c).hitTimer.isRunning = false
    cases hhit : c.wasHit with
    | true => simp [HitTracker.next, lastHit, hhit] at h
    | false =>
      have hnone : lastHit s.2 = none := by simpa [HitTracker.next, lastHit, hhit] using h
      simpa [call_eq, recentlyHit, hhit] using hs.stopped hnone
  · change (s.1.call c).hitTimer = _
    cases hhit : c.wasHit with
    | true =>
      obtain rfl : c.now = t := by simpa [HitTracker.next, lastHit, hhit] using h
      simp [call_eq, recentlyHit, hhit, Timeout.restart]
    | false =>
      have hlast : lastHit s.2 = some t := by simpa [HitTracker.next, lastHit, hhit] using h
      simpa [call_eq, recentlyHit, hhit] using hs.running t hlast

theorem recentlyHit_fst (s : HitTracker × List HitCall) (c : HitCall) :
    (s.1.recentlyHit c).1 = !(HitTracker.next s c).1.hitTimer.isExpired c.now := by
  rw [HitTracker.next, call_eq]
  rfl

/-- Before damage is seen the timer is stopped, and the answer is true. -/
theorem recentlyHit_of_none (hs : Inv s) (hc : NotBefore s c) (hlast : lastHit (c :: s.2) = none) :
    (s.1.recentlyHit c).1 = true := by
  have hstopped := (hs.next hc).stopped hlast
  rw [recentlyHit_fst, Timeout.isExpired, hstopped]
  rfl

/-- After damage was seen the answer compares the clock with the time the timer is set to. -/
theorem recentlyHit_of_some (hs : Inv s) (hc : NotBefore s c) {t : UInt32}
    (hlast : lastHit (c :: s.2) = some t) :
    (s.1.recentlyHit c).1 = true ↔ c.now < t + HIT_EXPIRE_TIME := by
  rw [recentlyHit_fst, (hs.next hc).running t hlast]
  simp [Timeout.isExpired]

theorem lastHit_le (horder : InOrder (c :: log)) (hlast : lastHit (c :: log) = some t) :
    t ≤ c.now := by
  induction log generalizing c with
  | nil => cases hhit : c.wasHit <;> simp_all [lastHit]
  | cons d log ih =>
    obtain ⟨hle, hrest⟩ := List.pairwise_cons.1 horder
    cases hhit : c.wasHit with
    | true =>
      obtain rfl : c.now = t := by simpa [lastHit, hhit] using hlast
      exact UInt32.le_refl _
    | false =>
      have hdlast : lastHit (d :: log) = some t := by
        rw [lastHit, hhit] at hlast
        exact hlast
      exact UInt32.le_trans (ih hrest hdlast) (hle d List.mem_cons_self)

/-- One call. -/
theorem answersRight_iff (hs : Inv s) (hc : NotBefore s c) :
    AnswersRight s c ↔ TimerInRange s c := by
  have horder : InOrder (c :: s.2) := (hs.next hc).inOrder
  cases hlast : lastHit (c :: s.2) with
  | none =>
    refine iff_of_false (fun h => ?_) (fun ⟨t, ht, _⟩ => by simp [hlast] at ht)
    exact not_hitWithin c.now hlast (h.1.1 (recentlyHit_of_none hs hc hlast))
  | some t =>
    have hle := UInt32.le_iff_toNat_le.1 (lastHit_le horder hlast)
    have hsum : (t + HIT_EXPIRE_TIME).toNat = (t.toNat + HIT_EXPIRE_TIME.toNat) % 2 ^ 32 :=
      UInt32.toNat_add _ _
    have hnow := c.now.toNat_lt
    have hexpire : HIT_EXPIRE_TIME.toNat = 5000 := rfl
    have hanswer : AnswersRight s c ↔ (c.now.toNat < (t.toNat + HIT_EXPIRE_TIME.toNat) % 2 ^ 32 ↔
        c.now.toNat < t.toNat + HIT_EXPIRE_TIME.toNat) := by
      rw [AnswersRight, recentlyHit_of_some hs hc hlast, hitWithin_iff horder c.now hlast,
        UInt32.lt_iff_toNat_lt, hsum]
      exact and_iff_left fun h => by simp [hlast] at h
    have hrange : TimerInRange s c ↔ t.toNat + HIT_EXPIRE_TIME.toNat < UInt32.size :=
      ⟨fun ⟨t', ht', h⟩ => by rwa [Option.some.inj (hlast.symm.trans ht')], fun h => ⟨t, hlast, h⟩⟩
    rw [hanswer, hrange, hexpire]
    have hsize : UInt32.size = 2 ^ 32 := rfl
    omega

theorem inv_initalize (t : HitTracker) : Inv (t.initalize, []) :=
  ⟨fun _ => rfl, nofun, List.Pairwise.nil⟩

theorem each_notBefore {calls : List HitCall} (hs : ∀ d ∈ s.2, ∀ c ∈ calls, d.now ≤ c.now)
    (hcalls : calls.Pairwise fun c d => c.now ≤ d.now) : Each HitTracker.next NotBefore s calls :=
  each_of_pairwise (fun (s : HitTracker × List HitCall) d => d ∈ s.2)
    (fun _ _ _ h => List.mem_cons.1 h) hs hcalls

/-- **When `recentlyHit` is right**, in any run from `initalize` on at times that do not decrease: a
call answers right if and only if damage was seen, by this call or before it, and the last call that
saw it came at least the expiry time before the clock overflows. -/
theorem recentlyHit_right_iff (t : HitTracker) (calls : List HitCall)
    (htimes : calls.Pairwise fun c d => c.now ≤ d.now) :
    Each HitTracker.next (fun s c => AnswersRight s c ↔ TimerInRange s c) (t.initalize, []) calls :=
  Each.of_inv (fun _ _ hs hc => ⟨answersRight_iff hs hc, hs.next hc⟩) (inv_initalize t)
    (each_notBefore nofun htimes)

/-- A hit, and a question less than five seconds later. -/
theorem recentlyHit_right_iff_hit :
    Each HitTracker.next (fun s c => AnswersRight s c ↔ TimerInRange s c)
      (initalize ⟨.stopped⟩, [])
      [⟨.recentlyHit, 100, 10, 1, 0⟩, ⟨.getHitAngle_gimbalRelative, 5099, 0, 1, 0⟩] :=
  recentlyHit_right_iff ⟨.stopped⟩ _ (by simp)

/-- A robot that was never hit is told from where it was. -/
theorem recentlyHit_never_hit :
    ¬ Each HitTracker.next AnswersRight (initalize ⟨.stopped⟩, [])
      [⟨.getHitAngle_chassisRelative, 1000, 0, 2, 0⟩] := by
  rintro ⟨h, -⟩
  obtain ⟨t, hlast, -⟩ := (answersRight_iff (inv_initalize ⟨.stopped⟩) nofun).1 h
  simp [lastHit, HitCall.wasHit] at hlast

end HitTracker

end Aimbots.Informants
