import Aimbots.Feeder.FeederLimitCommand
import Aimbots.Library.Run

/-!
# The limit switch while the command fires

`FeederLimitCommand` sets `limitSwitchDownTime` as the time for which the limit switch is ignored
when a projectile is fired.  The branch that reads the switch does not ask for it: two runs whose
switches differ in that time only stay the same exactly if the branch taken makes no difference
(`sameInWindow_iff`), which it always does in the `execute` after the fire switch went up
(`not_ignored_of_fires`).
-/

namespace Aimbots.Feeder

open FeederSubsystem Run

namespace FeederLimitCommand

variable {c : FeederConstants}

/-- The command and the feeder. -/
abbrev State (c : FeederConstants) : Type := FeederLimitCommand × FeederSubsystem c

/-- The target RPMs, `isFiring`, `loaderDormant` and the timers are the same. -/
structure SameState (s t : State c) : Prop where
  target : s.2.feederTargetRPMs = t.2.feederTargetRPMs
  firing : s.1.isFiring = t.1.isFiring
  dormant : s.1.loaderDormant = t.1.loaderDormant
  startup : s.1.startupThreshold = t.1.startupThreshold
  unjam : s.1.unjamTimer = t.1.unjamTimer
  inactive : s.1.limitswitchInactive = t.1.limitswitchInactive

theorem sameState_refl (s : State c) : SameState s s := ⟨rfl, rfl, rfl, rfl, rfl, rfl⟩

theorem SameState.symm {s t : State c} (h : SameState s t) : SameState t s :=
  ⟨h.target.symm, h.firing.symm, h.dormant.symm, h.startup.symm, h.unjam.symm, h.inactive.symm⟩

section Step

variable (cmd : FeederLimitCommand) (inp : LimitInputs) (f : FeederSubsystem c)

/-- Neither timer runs out, and the secondary motors stand still: there is nothing to do for the
loader. -/
def Idle : Prop :=
  cmd.unjams inp = false ∧ cmd.activates inp = false ∧
    ∀ i, c.FEEDER_MOTOR_GROUPS i = .SECONDARY → f.feederTargetRPMs i = 0

/-- Both timers run out and are set as they were, which takes a clock that wraps around, and the
secondary motors are to stand still. -/
def WrapsBack : Prop :=
  cmd.unjams inp = true ∧ cmd.activates inp = true ∧
    cmd.startupThreshold.restart inp.now 500 = cmd.startupThreshold ∧
    { cmd.unjamTimer.restart inp.now cmd.UNJAM_TIMER_MS with isExecuted := true } = cmd.unjamTimer ∧
    ∀ i, c.FEEDER_MOTOR_GROUPS i = .SECONDARY →
      (if f.feederCustomSpeedActive i then -|c.FEEDER_UNJAM_RPMS i|
        else c.FEEDER_NORMAL_RPMS i) = 0

/-- An `execute` ignores the limit switch: the loader is dormant, or the fire switch goes up and the
loader has nothing to do. -/
def Ignored : Prop :=
  cmd.loaderDormant = true ∨ cmd.fires inp = true ∧ (Idle cmd inp f ∨ WrapsBack cmd inp f)

variable {cmd inp f}

theorem motor_fire (r : State c) (i : Fin c.FEEDER_MOTOR_COUNT) :
    (fire inp r).2.motor i =
      if c.FEEDER_MOTOR_GROUPS i = .PRIMARY then (c.FEEDER_NORMAL_RPMS i * 3, true)
      else r.2.motor i := by
  simp [fire, motor_forFeederMotorGroup (locally_customMulti 3)]

theorem motor_restLoader {i : Fin c.FEEDER_MOTOR_COUNT}
    (hi : c.FEEDER_MOTOR_GROUPS i ≠ .PRIMARY) :
    (cmd.restLoader f).2.motor i =
      if c.FEEDER_MOTOR_GROUPS i = .SECONDARY then (0, (f.motor i).2) else f.motor i := by
  unfold restLoader
  cases cmd.isFiring <;> simp [motor_forFeederMotorGroup locally_deactivate, hi]

/-- Firing hides what the loader's branch did to the primary motors. -/
theorem fire_congr {r t : State c} (hcmd : r.1 = { t.1 with loaderDormant := r.1.loaderDormant })
    (hmotor : ∀ i, c.FEEDER_MOTOR_GROUPS i ≠ .PRIMARY → r.2.motor i = t.2.motor i) :
    fire inp r = fire inp t := by
  have hfeeder : (fire inp r).2 = (fire inp t).2 := by
    refine ext_motor fun i => ?_
    rw [motor_fire, motor_fire]
    split_ifs with hi
    · rfl
    · exact hmotor i hi
  refine Prod.ext ?_ hfeeder
  rw [fire, hcmd]
  rfl

/-- What the running loader makes of a motor that is not a primary one. -/
theorem motor_runLoader {i : Fin c.FEEDER_MOTOR_COUNT}
    (hi : c.FEEDER_MOTOR_GROUPS i ≠ .PRIMARY) :
    (cmd.runLoader inp f).2.motor i =
      if c.FEEDER_MOTOR_GROUPS i = .SECONDARY then
        let m := if cmd.unjams inp then (-|c.FEEDER_UNJAM_RPMS i|, (f.motor i).2) else f.motor i
        if cmd.activates inp && !m.2 then (c.FEEDER_NORMAL_RPMS i, m.2) else m
      else f.motor i := by
  rw [runLoader_eq]
  by_cases hgroup : c.FEEDER_MOTOR_GROUPS i = .SECONDARY <;>
    cases hunjams : cmd.unjams inp <;> cases hactivates : cmd.activates inp <;>
    cases hcustom : (f.motor i).2 <;>
    simp [motor_forFeederMotorGroup locally_activate, motor_forFeederMotorGroup locally_unjam,
      motor_forFeederMotorGroup (locally_customMulti 1), hi, hgroup, hcustom]

theorem askedUnjamTimer_of_not_unjams (h : cmd.unjams inp = false) :
    cmd.askedUnjamTimer inp = cmd.unjamTimer := by
  rw [askedUnjamTimer, h, if_neg Bool.false_ne_true]

theorem askedUnjamTimer_of_unjams (h : cmd.unjams inp = true) :
    cmd.askedUnjamTimer inp = cmd.unjamTimer.restart inp.now cmd.UNJAM_TIMER_MS := by
  rw [askedUnjamTimer, h, if_pos rfl]

theorem runLoader_of_idle (hunjams : cmd.unjams inp = false)
    (hactivates : cmd.activates inp = false) : cmd.runLoader inp f = (cmd, f) := by
  have hasked := askedUnjamTimer_of_not_unjams hunjams
  have htimer : (cmd.unjamTimer.execute inp.now).2 = cmd.unjamTimer := by
    refine Tap.Timeout.execute_of_false ?_
    rw [← hasked]
    exact hactivates
  rw [runLoader_eq, hunjams, hactivates, hasked, htimer, startup_of_not_unjams hunjams]
  rfl

/-- The timers after both have run out. -/
theorem runLoader_timers (hunjams : cmd.unjams inp = true) (hactivates : cmd.activates inp = true) :
    (cmd.runLoader inp f).1 =
      { cmd with
        startupThreshold := cmd.startupThreshold.restart inp.now 500
        unjamTimer :=
          { cmd.unjamTimer.restart inp.now cmd.UNJAM_TIMER_MS with isExecuted := true } } := by
  have hasked := askedUnjamTimer_of_unjams hunjams
  have htimer := (Tap.Timeout.execute_of_true hactivates).2.2
  rw [runLoader_eq, hactivates, if_pos rfl, htimer, hasked]
  rfl

/-- The unjam timer that starts the loader has been executed, and was not before. -/
theorem unjamTimer_runLoader_ne (hunjams : cmd.unjams inp = false)
    (hactivates : cmd.activates inp = true) :
    (cmd.runLoader inp f).1.unjamTimer ≠ cmd.unjamTimer := by
  intro hunjam
  have hexecuted := Tap.Timeout.execute_of_true hactivates
  rw [askedUnjamTimer_of_not_unjams hunjams] at hexecuted
  rw [runLoader_eq, if_pos hactivates, askedUnjamTimer_of_not_unjams hunjams] at hunjam
  have hfalse := congrArg Tap.Timeout.isExecuted (hexecuted.2.2.symm.trans hunjam)
  exact absurd (hfalse.trans hexecuted.1) Bool.true_eq_false_eq_False

/-- The same for the startup threshold, which nothing sets again. -/
theorem startupThreshold_runLoader_ne (hunjams : cmd.unjams inp = true)
    (hactivates : cmd.activates inp = false) :
    (cmd.runLoader inp f).1.startupThreshold ≠ cmd.startupThreshold := by
  intro hstartup
  have hexecuted := startup_of_unjams hunjams
  rw [runLoader_eq, if_neg fun h => Bool.false_ne_true (hactivates.symm.trans h)] at hstartup
  have hfalse := congrArg Tap.Timeout.isExecuted (hexecuted.2.symm.trans hstartup)
  exact absurd (hfalse.trans hexecuted.1) Bool.true_eq_false_eq_False

/-- The secondary motors after both timers have run out. -/
theorem motor_runLoader_secondary (hunjams : cmd.unjams inp = true)
    (hactivates : cmd.activates inp = true) {i : Fin c.FEEDER_MOTOR_COUNT}
    (hi : c.FEEDER_MOTOR_GROUPS i = .SECONDARY) :
    (cmd.runLoader inp f).2.motor i =
      (if f.feederCustomSpeedActive i then -|c.FEEDER_UNJAM_RPMS i| else c.FEEDER_NORMAL_RPMS i,
        f.feederCustomSpeedActive i) := by
  rw [motor_runLoader (by simp [hi]), if_pos hi, hunjams, hactivates]
  cases hcustom : f.feederCustomSpeedActive i <;> simp [motor, hcustom]

theorem fire_runLoader_of_ignored (h : Idle cmd inp f ∨ WrapsBack cmd inp f) :
    fire inp ((cmd.beforeLoader inp).runLoader inp f) =
      fire inp ((cmd.beforeLoader inp).restLoader f) := by
  rcases h with ⟨hunjams, hactivates, hsecondary⟩ |
    ⟨hunjams, hactivates, hstartup, hunjam, hsecondary⟩
  · have hunjams' : (cmd.beforeLoader inp).unjams inp = false := hunjams
    have hactivates' : (cmd.beforeLoader inp).activates inp = false := hactivates
    rw [runLoader_of_idle hunjams' hactivates']
    refine fire_congr rfl fun i hi => ?_
    rw [motor_restLoader hi]
    split_ifs with hgroup
    · exact Prod.ext (hsecondary i hgroup) rfl
    · rfl
  · have hunjams' : (cmd.beforeLoader inp).unjams inp = true := hunjams
    have hactivates' : (cmd.beforeLoader inp).activates inp = true := hactivates
    have hcmd : ((cmd.beforeLoader inp).runLoader inp f).1 = cmd.beforeLoader inp := by
      rw [runLoader_timers hunjams' hactivates']
      show { cmd.beforeLoader inp with
        startupThreshold := cmd.startupThreshold.restart inp.now 500
        unjamTimer :=
          { cmd.unjamTimer.restart inp.now cmd.UNJAM_TIMER_MS with isExecuted := true } } = _
      rw [hstartup, hunjam]
      rfl
    refine fire_congr (by rw [hcmd]; rfl) fun i hi => ?_
    rw [motor_restLoader hi]
    by_cases hgroup : c.FEEDER_MOTOR_GROUPS i = .SECONDARY
    · rw [motor_runLoader_secondary hunjams' hactivates' hgroup, if_pos hgroup, hsecondary i hgroup]
      rfl
    · rw [motor_runLoader hi, if_neg hgroup, if_neg hgroup]

/-- **Firing tells what the loader's branch did**, unless the switch is ignored. -/
theorem ignored_of_fire_runLoader
    (h : SameState (fire inp ((cmd.beforeLoader inp).runLoader inp f))
      (fire inp ((cmd.beforeLoader inp).restLoader f))) :
    Idle cmd inp f ∨ WrapsBack cmd inp f := by
  have hstartup : ((cmd.beforeLoader inp).runLoader inp f).1.startupThreshold =
      cmd.startupThreshold := h.startup
  have hunjam : ((cmd.beforeLoader inp).runLoader inp f).1.unjamTimer = cmd.unjamTimer := h.unjam
  have hsecondary : ∀ i, c.FEEDER_MOTOR_GROUPS i = .SECONDARY →
      (((cmd.beforeLoader inp).runLoader inp f).2.motor i).1 = 0 := by
    intro i hi
    have hprimary : c.FEEDER_MOTOR_GROUPS i ≠ .PRIMARY := by simp [hi]
    have htarget : ((fire inp ((cmd.beforeLoader inp).runLoader inp f)).2.motor i).1 =
        ((fire inp ((cmd.beforeLoader inp).restLoader f)).2.motor i).1 := congrFun h.target i
    rw [motor_fire, motor_fire, if_neg hprimary, if_neg hprimary, motor_restLoader hprimary,
      if_pos hi] at htarget
    exact htarget
  cases hunjams : cmd.unjams inp with
  | false =>
    have hunjams' : (cmd.beforeLoader inp).unjams inp = false := hunjams
    cases hactivates : cmd.activates inp with
    | false =>
      have hactivates' : (cmd.beforeLoader inp).activates inp = false := hactivates
      rw [runLoader_of_idle hunjams' hactivates'] at hsecondary
      exact Or.inl ⟨hunjams, hactivates, hsecondary⟩
    | true =>
      have hactivates' : (cmd.beforeLoader inp).activates inp = true := hactivates
      exact absurd hunjam (unjamTimer_runLoader_ne hunjams' hactivates')
  | true =>
    have hunjams' : (cmd.beforeLoader inp).unjams inp = true := hunjams
    cases hactivates : cmd.activates inp with
    | false =>
      have hactivates' : (cmd.beforeLoader inp).activates inp = false := hactivates
      exact absurd hstartup (startupThreshold_runLoader_ne hunjams' hactivates')
    | true =>
      have hactivates' : (cmd.beforeLoader inp).activates inp = true := hactivates
      rw [runLoader_timers hunjams' hactivates'] at hstartup hunjam
      refine Or.inr ⟨hunjams, hactivates, hstartup, hunjam, fun i hi => ?_⟩
      have hzero := hsecondary i hi
      rw [motor_runLoader_secondary hunjams' hactivates' hi] at hzero
      exact hzero

theorem loaderDormant_runLoader : (cmd.runLoader inp f).1.loaderDormant = cmd.loaderDormant := by
  rw [runLoader_eq]
  dsimp only
  split_ifs <;> rfl

/-- The `execute` with another reading of the limit switch. -/
abbrev executeReading (cmd : FeederLimitCommand) (inp : LimitInputs) (f : FeederSubsystem c)
    (pressed : Bool) : State c := cmd.execute { inp with pressed := pressed } f

theorem executeReading_of_dormant (h : cmd.loaderDormant = true) (pressed : Bool) :
    cmd.executeReading inp f pressed = cmd.executeReading inp f false := by
  unfold executeReading
  rw [execute_eq, execute_eq, loader, loader, h, Bool.not_true, Bool.and_false, Bool.and_false]
  rfl

theorem executeReading_true (h : cmd.loaderDormant = false) :
    cmd.executeReading inp f true =
      if cmd.fires inp then fire inp ((cmd.beforeLoader inp).runLoader inp f)
      else (cmd.beforeLoader inp).runLoader inp f := by
  unfold executeReading
  rw [execute_eq, loader, h]
  rfl

theorem executeReading_false :
    cmd.executeReading inp f false =
      if cmd.fires inp then fire inp ((cmd.beforeLoader inp).restLoader f)
      else (cmd.beforeLoader inp).restLoader f := by
  unfold executeReading
  rw [execute_eq]
  rfl

theorem executeReading_of_ignored (h : Ignored cmd inp f) (pressed pressed' : Bool) :
    cmd.executeReading inp f pressed = cmd.executeReading inp f pressed' := by
  have key : cmd.executeReading inp f true = cmd.executeReading inp f false := by
    cases hdormant : cmd.loaderDormant with
    | true => exact executeReading_of_dormant hdormant true
    | false =>
      rcases h with h | ⟨hfires, h⟩
      · exact Bool.noConfusion (hdormant.symm.trans h)
      · rw [executeReading_true hdormant, executeReading_false, if_pos hfires, if_pos hfires,
          fire_runLoader_of_ignored h]
  cases pressed <;> cases pressed' <;> first | rfl | exact key | exact key.symm

theorem ignored_of_sameState
    (h : SameState (cmd.executeReading inp f true) (cmd.executeReading inp f false)) :
    Ignored cmd inp f := by
  cases hdormant : cmd.loaderDormant with
  | true => exact Or.inl hdormant
  | false =>
    rw [executeReading_true hdormant, executeReading_false] at h
    by_cases hfires : cmd.fires inp
    · rw [if_pos hfires, if_pos hfires] at h
      exact Or.inr ⟨hfires, ignored_of_fire_runLoader h⟩
    · rw [if_neg hfires, if_neg hfires] at h
      have hfalse := h.dormant
      rw [loaderDormant_runLoader] at hfalse
      exact Bool.noConfusion (hdormant.symm.trans hfalse)

/-- **Two readings of the limit switch** make no difference exactly if the switch is ignored. -/
theorem sameState_executeReading_iff {pressed pressed' : Bool} :
    SameState (cmd.executeReading inp f pressed) (cmd.executeReading inp f pressed') ↔
      (pressed = pressed' ∨ Ignored cmd inp f) := by
  constructor
  · intro h
    cases pressed <;> cases pressed'
    · exact Or.inl rfl
    · exact Or.inr (ignored_of_sameState h.symm)
    · exact Or.inr (ignored_of_sameState h)
    · exact Or.inl rfl
  · rintro (rfl | h)
    · exact sameState_refl _
    · rw [executeReading_of_ignored h pressed pressed']
      exact sameState_refl _

/-- After the fire switch went up, the loader is not dormant. -/
theorem loaderDormant_of_fires (h : cmd.fires inp = true) :
    (cmd.execute inp f).1.loaderDormant = false := by
  rw [execute_eq, if_pos h]
  rfl

theorem currFireState_execute :
    (cmd.execute inp f).1.currFireState = decide (inp.rightSwitch = SwitchState.UP) := by
  rw [execute_eq, apply_ite Prod.fst, apply_ite FeederLimitCommand.currFireState]
  exact (ite_self _).trans (currFireState_loader cmd inp f)

/-- The `execute` after the one in which the fire switch went up never ignores the limit switch. -/
theorem not_ignored_of_fires (h : cmd.fires inp = true) (later : LimitInputs) :
    ¬ Ignored (cmd.execute inp f).1 later (cmd.execute inp f).2 := by
  have hcurr : (cmd.execute inp f).1.currFireState = true := by
    rw [currFireState_execute]
    exact (Bool.and_eq_true_iff.1 h).1
  rintro (hdormant | ⟨hfires, -⟩)
  · exact Bool.noConfusion ((loaderDormant_of_fires h).symm.trans hdormant)
  · rw [fires, hcurr, Bool.not_true, Bool.and_false] at hfires
    exact Bool.noConfusion hfires

end Step

/-- An `execute` of two runs: what both see, and what the limit switch of the second reads if the
readings may differ. -/
structure PairEvent where
  inp : LimitInputs
  pressed : Bool
deriving DecidableEq, Repr

end FeederLimitCommand

open FeederLimitCommand in
/-- Two runs of `FeederLimitCommand::execute`, and when the fire switch went up in them. -/
structure LimitPair (c : FeederConstants) where
  first : FeederLimitCommand.State c
  second : FeederLimitCommand.State c
  edges : List UInt32

namespace LimitPair

variable {c : FeederConstants}

/-- Two runs that start in the same state. -/
def start (s : FeederLimitCommand.State c) : LimitPair c := ⟨s, s, []⟩

/-- An `execute` inside the window: within `limitSwitchDownTime` after the fire switch went up. -/
def InWindow (pair : LimitPair c) (now : UInt32) : Prop :=
  ∃ edge ∈ pair.edges, now - edge < limitSwitchDownTime

instance (pair : LimitPair c) (now : UInt32) : Decidable (pair.InWindow now) :=
  inferInstanceAs (Decidable (∃ edge ∈ pair.edges, now - edge < limitSwitchDownTime))

/-- What the limit switch of the second run reads: it differs from the first one's only inside the
window. -/
def secondPressed (pair : LimitPair c) (e : FeederLimitCommand.PairEvent) : Bool :=
  if pair.InWindow e.inp.now then e.pressed else e.inp.pressed

/-- An `execute` of both. -/
def next (pair : LimitPair c) (e : FeederLimitCommand.PairEvent) : LimitPair c where
  first := pair.first.1.execute e.inp pair.first.2
  second := pair.second.1.execute { e.inp with pressed := pair.secondPressed e } pair.second.2
  edges := if pair.first.1.fires e.inp then e.inp.now :: pair.edges else pair.edges

/-- An `execute` inside the window leaves both runs in the same state. -/
def SameAfter (pair : LimitPair c) (e : FeederLimitCommand.PairEvent) : Prop :=
  pair.InWindow e.inp.now → FeederLimitCommand.SameState (pair.next e).first (pair.next e).second

/-- An `execute` inside the window reads the same of both limit switches, or ignores them. -/
def IgnoredInWindow (pair : LimitPair c) (e : FeederLimitCommand.PairEvent) : Prop :=
  pair.InWindow e.inp.now →
    e.inp.pressed = e.pressed ∨ FeederLimitCommand.Ignored pair.first.1 e.inp pair.first.2

variable {pair : LimitPair c}

theorem first_next (e : FeederLimitCommand.PairEvent) :
    (pair.next e).first =
      pair.first.1.executeReading e.inp pair.first.2 e.inp.pressed := rfl

theorem second_next (e : FeederLimitCommand.PairEvent) :
    (pair.next e).second =
      pair.second.1.executeReading e.inp pair.second.2 (pair.secondPressed e) := rfl

theorem first_eq_second_next (h : pair.first = pair.second) (e : FeederLimitCommand.PairEvent)
    (hignored : pair.IgnoredInWindow e) : (pair.next e).first = (pair.next e).second := by
  rw [first_next, second_next, ← h, secondPressed]
  by_cases hwindow : pair.InWindow e.inp.now
  · rw [if_pos hwindow]
    rcases hignored hwindow with hpressed | hignored
    · rw [hpressed]
    · exact FeederLimitCommand.executeReading_of_ignored hignored e.inp.pressed e.pressed
  · rw [if_neg hwindow]

theorem sameAfter_iff (h : pair.first = pair.second) (e : FeederLimitCommand.PairEvent) :
    pair.SameAfter e ↔ pair.IgnoredInWindow e := by
  refine forall_congr' fun hwindow => ?_
  rw [first_next, second_next, ← h, secondPressed, if_pos hwindow]
  exact FeederLimitCommand.sameState_executeReading_iff

/-- **When the limit switch is ignored**: two runs that start in the same state, and whose limit
switches read the same outside the window, stay the same inside it exactly if the readings in it are
the same or ignored. -/
theorem sameInWindow_iff (s : FeederLimitCommand.State c)
    (events : List FeederLimitCommand.PairEvent) :
    Each next SameAfter (start s) events ↔ Each next IgnoredInWindow (start s) events := by
  have hstart : (start s).first = (start s).second := rfl
  refine each_iff_of_step (fun pair e (h : pair.first = pair.second) => sameAfter_iff h e) ?_ hstart
  exact fun pair e h hignored => first_eq_second_next h e hignored

/-- The hero's command after `initialize`. -/
def heroStart : FeederLimitCommand.State Robot.hero.constants :=
  (FeederLimitCommand.construct 100).init (.construct Robot.hero.constants) 0

/-- A hero that stands still fires, and 100 ms later the limit switch of the second run is no longer
pressed. -/
def heroEvents : List FeederLimitCommand.PairEvent :=
  [⟨⟨1000, true, .UP, 0⟩, true⟩, ⟨⟨1100, true, .UP, 0⟩, false⟩]

/-- The loader of the hero, motor 0, runs or stands still by the limit switch. -/
theorem not_sameInWindow_hero :
    ¬ Each next SameAfter (start heroStart) heroEvents ∧
      (after next (start heroStart) heroEvents).first.2.feederTargetRPMs (0 : Fin 2) = 500 ∧
      (after next (start heroStart) heroEvents).second.2.feederTargetRPMs (0 : Fin 2) = 0 := by
  have hfirst : (after next (start heroStart) heroEvents).first.2.feederTargetRPMs (0 : Fin 2) =
      500 := by decide +kernel
  have hsecond : (after next (start heroStart) heroEvents).second.2.feederTargetRPMs (0 : Fin 2) =
      0 := by decide +kernel
  refine ⟨fun h => ?_, hfirst, hsecond⟩
  have hsame := h.2.1 (by decide +kernel)
  have htarget := congrFun hsame.target (0 : Fin 2)
  exact absurd (hfirst.symm.trans (htarget.trans hsecond)) (by decide)

end LimitPair

end Aimbots.Feeder
