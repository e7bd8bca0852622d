import Aimbots.BarrelManager.BarrelSwapRun
import Aimbots.Library.Run

/-!
# Swaps on an unsafe heat

When the heat of the current barrel is unsafe, `execute` selects the other side, and the heat that
it looks at stays that of the same barrel until the carriage has arrived.  `wasLogicSwitchRequested`
is what keeps the next `execute` from selecting the first side again.

A run is any sequence of calls of the command and of its subsystem.  `swaps_do_not_oscillate`:
between two selections for the heat there is an `execute` that finds the carriage at the side
selected then, and the current barrel is the one of the side that a refresh found the carriage at
last.
-/

namespace Aimbots.BarrelManager

open Run

/-- The calls: `initialize` and `refresh` of the subsystem, `execute` and `end` of the command. -/
inductive SwapEvent
  | init (now : UInt32)
  | execute (inp : SwapInputs)
  | finish
  | refresh (motor : SwapMotor)

namespace BarrelManagerSubsystem

/-- A refresh finds the carriage at the selected side: the motor is online, and the position that
its encoder stands for is within tolerance of that side. -/
def Reaches (k : BarrelSwapConstants) (m : BarrelManagerSubsystem) (motor : SwapMotor) : Prop :=
  motor.isMotorOnline = true ∧ m.getSide ≠ .CURRENT ∧
    |motor.position k - m.getSideInMM m.getSide| ≤ k.BARRELS_ALIGNED_TOLERANCE

instance (k : BarrelSwapConstants) (m : BarrelManagerSubsystem) (motor : SwapMotor) :
    Decidable (m.Reaches k motor) :=
  inferInstanceAs (Decidable (_ ∧ _))

variable {k : BarrelSwapConstants} {m : BarrelManagerSubsystem} {motor : SwapMotor}

/-- A refresh that finds the carriage at the selected side makes the barrel of that side the current
one. -/
theorem currentBarrel_refresh_of_reaches (h : m.Reaches k motor) :
    BarrelSide.barrelID k m.getSide = some (m.refresh k motor).currentBarrel := by
  obtain ⟨honline, hside, haligned⟩ := h
  have haligned' : ({ m with
      currentSwapMotorPosition := motor.position k
      swapMotorOutput := m.desiredSwapMotorOutput } : BarrelManagerSubsystem).isBarrelAligned k =
        true := decide_eq_true haligned
  simp only [refresh, if_pos honline, if_pos haligned', getSide] at hside ⊢
  cases hs : m.currentBarrelSide with
  | LEFT => rfl
  | RIGHT => rfl
  | CURRENT => exact absurd hs hside

/-- Any other refresh leaves the current barrel. -/
theorem currentBarrel_refresh_of_not_reaches (h : ¬ m.Reaches k motor) :
    (m.refresh k motor).currentBarrel = m.currentBarrel := by
  simp only [refresh]
  split_ifs with honline haligned
  · by_cases hside : m.currentBarrelSide = .CURRENT
    · simp only [hside]
      rfl
    · exact absurd ⟨honline, hside, of_decide_eq_true haligned⟩ h
  · rfl
  · rfl

/-- Whatever `findZeroPosition` finds, it leaves the current barrel. -/
theorem currentBarrel_findZeroPosition (side : BarrelSide) (now : UInt32) :
    (m.findZeroPosition k side now motor).2.currentBarrel = m.currentBarrel := by
  simp only [findZeroPosition]
  split_ifs <;> rfl

end BarrelManagerSubsystem

namespace BarrelSwapState

variable (k : BarrelSwapConstants) (s : BarrelSwapState) (inp : SwapInputs)

/-- What one call does. -/
def next (s : BarrelSwapState) : SwapEvent → BarrelSwapState
  | .init now => { s with barrelManager := s.barrelManager.init now }
  | .execute inp => s.execute k inp
  | .finish => s.finish
  | .refresh motor => { s with barrelManager := s.barrelManager.refresh k motor }

/-! ### What a swap is about -/

/-- An `execute` that does not calibrate, when it comes to look at the heat: the controller has run,
and the key R has been followed. -/
def beforeHeat : BarrelSwapState :=
  let command := s.command.requestCalibration s.barrelCaliDoneFlag inp
  let barrelMovingFlag := command.barrelCalibratingFlag || !s.barrelManager.isBarrelAligned k
  ({ s with command, barrelMovingFlag }.runSwapMotor inp).swapByKey inp

/-- The heat makes an `execute` select another side than the one selected when it looks at it. -/
def TogglesByHeat : SwapEvent → Prop
  | .execute inp => ¬ s.Calibrates inp ∧
      ((s.beforeHeat k inp).swapByHeat k inp).barrelManager.getSide ≠
        (s.beforeHeat k inp).barrelManager.getSide
  | .init _ | .finish | .refresh _ => False

/-- An `execute` finds the carriage aligned with the side that is selected when it looks at the
heat. -/
def FindsAligned : SwapEvent → Prop
  | .execute inp => ¬ s.Calibrates inp ∧
      (s.beforeHeat k inp).barrelManager.isBarrelAligned k = true
  | .init _ | .finish | .refresh _ => False

/-- A refresh finds the carriage at the selected side. -/
def Confirms : SwapEvent → Prop
  | .refresh motor => s.barrelManager.Reaches k motor
  | .init _ | .execute _ | .finish => False

instance : ∀ e, Decidable (s.TogglesByHeat k e)
  | .execute _ => inferInstanceAs (Decidable (_ ∧ _))
  | .init _ | .finish | .refresh _ => isFalse id

instance : ∀ e, Decidable (s.FindsAligned k e)
  | .execute _ => inferInstanceAs (Decidable (_ ∧ _))
  | .init _ | .finish | .refresh _ => isFalse id

variable {k s inp}

/-! ### What the steps of `execute` leave -/

theorem execute_of_calibrates (h : s.Calibrates inp) :
    (s.execute k inp).command.wasLogicSwitchRequested = s.command.wasLogicSwitchRequested ∧
      (s.execute k inp).barrelManager =
        (s.barrelManager.findZeroPosition k .LEFT inp.now inp.motor).2 := by
  have hcal : (s.command.requestCalibration s.barrelCaliDoneFlag inp).barrelCalibratingFlag =
      true := h
  constructor
  · simp only [execute, hcal, Bool.not_true, Bool.false_eq_true, if_false]
    rfl
  · simp only [execute, hcal, Bool.not_true, Bool.false_eq_true, if_false]

theorem execute_eq_swapByHeat (h : ¬ s.Calibrates inp) :
    (s.execute k inp).command = ((s.beforeHeat k inp).swapByHeat k inp).command ∧
      (s.execute k inp).barrelManager =
        ((s.beforeHeat k inp).swapByHeat k inp).barrelManager := by
  have hcal : (s.command.requestCalibration s.barrelCaliDoneFlag inp).barrelCalibratingFlag =
      false :=
    Bool.eq_false_iff.2 h
  constructor
  · simp only [execute, beforeHeat, hcal, Bool.not_false, if_true]
  · simp only [execute, beforeHeat, hcal, Bool.not_false, if_true]

theorem beforeHeat_cases :
    (s.beforeHeat k inp).command.wasLogicSwitchRequested = s.command.wasLogicSwitchRequested ∧
      (s.beforeHeat k inp).barrelManager.currentBarrel = s.barrelManager.currentBarrel := by
  simp only [beforeHeat, swapByKey]
  split_ifs <;> exact ⟨rfl, rfl⟩

/-- A toggle selects another side. -/
theorem getSide_toggleSide_ne (m : BarrelManagerSubsystem) : m.toggleSide.getSide ≠ m.getSide := by
  show (if m.currentBarrelSide = .LEFT then BarrelSide.RIGHT else .LEFT) ≠ m.currentBarrelSide
  cases m.currentBarrelSide <;> decide

/-- **The look at the heat**: it selects the other side if the heat is unsafe and no swap for it is
going on, and remembers that; otherwise it leaves the subsystem alone, and remembers a swap that
goes on. -/
theorem swapByHeat_cases (k : BarrelSwapConstants) (s : BarrelSwapState) (inp : SwapInputs) :
    let safe := (s.refHelper inp.turretData).canCurrBarrelShootSafely k.safetyHeatTolerance
    let goesOn := s.command.wasLogicSwitchRequested && !s.barrelManager.isBarrelAligned k
    ((safe = false ∧ goesOn = false) ∧
        (s.swapByHeat k inp).command.wasLogicSwitchRequested = true ∧
        (s.swapByHeat k inp).barrelManager = s.barrelManager.toggleSide) ∨
      ¬ (safe = false ∧ goesOn = false) ∧
        (s.swapByHeat k inp).command.wasLogicSwitchRequested = goesOn ∧
        (s.swapByHeat k inp).barrelManager = s.barrelManager := by
  intro safe goesOn
  by_cases htoggles : (!safe && !goesOn) = true
  · have hswap : s.swapByHeat k inp = { s with
        command := { s.command with wasLogicSwitchRequested := true }
        barrelManager := s.barrelManager.toggleSide } := if_pos htoggles
    rw [Bool.and_eq_true, Bool.not_eq_true', Bool.not_eq_true'] at htoggles
    rw [hswap]
    exact Or.inl ⟨htoggles, rfl, rfl⟩
  · have hswap : s.swapByHeat k inp =
        { s with command := { s.command with wasLogicSwitchRequested := goesOn } } :=
          if_neg htoggles
    rw [Bool.and_eq_true, Bool.not_eq_true', Bool.not_eq_true'] at htoggles
    rw [hswap]
    exact Or.inr ⟨htoggles, rfl, rfl⟩

/-- Another side is selected by a toggle. -/
theorem barrelManager_swapByHeat (k : BarrelSwapConstants) (s : BarrelSwapState)
    (inp : SwapInputs) :
    (s.swapByHeat k inp).barrelManager =
      if (s.swapByHeat k inp).barrelManager.getSide ≠ s.barrelManager.getSide then
        s.barrelManager.toggleSide
      else s.barrelManager := by
  rcases swapByHeat_cases k s inp with ⟨-, -, hmanager⟩ | ⟨-, -, hmanager⟩
  · rw [hmanager, if_pos (getSide_toggleSide_ne _)]
  · rw [hmanager, if_neg (not_not.2 rfl)]

theorem currentBarrel_swapByHeat (k : BarrelSwapConstants) (s : BarrelSwapState)
    (inp : SwapInputs) :
    (s.swapByHeat k inp).barrelManager.currentBarrel = s.barrelManager.currentBarrel := by
  rw [barrelManager_swapByHeat]
  split_ifs <;> rfl

/-- A selection for the heat is made when the heat is unsafe and no swap for it is going on, and is
remembered. -/
theorem heat_of_getSide_ne
    (h : (s.swapByHeat k inp).barrelManager.getSide ≠ s.barrelManager.getSide) :
    (s.refHelper inp.turretData).canCurrBarrelShootSafely k.safetyHeatTolerance = false ∧
      (s.command.wasLogicSwitchRequested && !s.barrelManager.isBarrelAligned k) = false ∧
      (s.swapByHeat k inp).command.wasLogicSwitchRequested = true := by
  rcases swapByHeat_cases k s inp with ⟨⟨hheat, hgoesOn⟩, hrequested, -⟩ | ⟨-, -, hmanager⟩
  · exact ⟨hheat, hgoesOn, hrequested⟩
  · rw [hmanager] at h
    exact absurd rfl h

/-! ### The latch -/

/-- A selection for the heat is remembered. -/
theorem requested_of_togglesByHeat {e : SwapEvent} (h : s.TogglesByHeat k e) :
    (s.next k e).command.wasLogicSwitchRequested = true := by
  cases e with
  | init => exact absurd h id
  | execute inp =>
    show (s.execute k inp).command.wasLogicSwitchRequested = true
    rw [(execute_eq_swapByHeat h.1).1]
    exact (heat_of_getSide_ne h.2).2.2
  | finish => exact absurd h id
  | refresh => exact absurd h id

/-- It is remembered until the carriage is found at the selected side. -/
theorem requested_next {e : SwapEvent} (h : s.command.wasLogicSwitchRequested = true)
    (he : ¬ s.FindsAligned k e) : (s.next k e).command.wasLogicSwitchRequested = true := by
  cases e with
  | init => exact h
  | execute inp =>
    show (s.execute k inp).command.wasLogicSwitchRequested = true
    by_cases hcal : s.Calibrates inp
    · exact (execute_of_calibrates hcal).1.trans h
    · rw [(execute_eq_swapByHeat hcal).1]
      rcases swapByHeat_cases k (s.beforeHeat k inp) inp with ⟨-, hrequested, -⟩
        | ⟨-, hrequested, -⟩
      · exact hrequested
      · have haligned := Bool.eq_false_iff.2 fun haligned => he ⟨hcal, haligned⟩
        rw [hrequested, beforeHeat_cases.1, h, haligned]
        rfl
  | finish => exact h
  | refresh => exact h

/-- While it is remembered, the heat selects a side only if the carriage is found at the selected
one. -/
theorem findsAligned_of_togglesByHeat {e : SwapEvent} (h : s.command.wasLogicSwitchRequested = true)
    (he : s.TogglesByHeat k e) : s.FindsAligned k e := by
  cases e with
  | init => exact absurd he id
  | execute inp =>
    obtain ⟨-, hgoesOn, -⟩ := heat_of_getSide_ne he.2
    rw [beforeHeat_cases.1, h, Bool.true_and, Bool.not_eq_false'] at hgoesOn
    exact ⟨he.1, hgoesOn⟩
  | finish => exact absurd he id
  | refresh => exact absurd he id

/-- **Between two selections for the heat** there is an `execute`, the second of the two included,
that finds the carriage at the side selected then. -/
theorem findsAligned_between {between : List SwapEvent} {e₁ e₂ : SwapEvent}
    (h₁ : s.TogglesByHeat k e₁) (h₂ : (after (next k) (s.next k e₁) between).TogglesByHeat k e₂) :
    ∃ before e rest, between ++ [e₂] = before ++ e :: rest ∧
      (after (next k) (s.next k e₁) before).FindsAligned k e :=
  exists_of_latch (fun _ _ => requested_next) (fun _ _ => findsAligned_of_togglesByHeat)
    (requested_of_togglesByHeat h₁) h₂

/-! ### The current barrel -/

/-- Only a refresh that finds the carriage at the selected side changes the current barrel. -/
theorem currentBarrel_next {e : SwapEvent} (h : ¬ s.Confirms k e) :
    (s.next k e).barrelManager.currentBarrel = s.barrelManager.currentBarrel := by
  cases e with
  | init => rfl
  | execute inp =>
    show (s.execute k inp).barrelManager.currentBarrel = _
    by_cases hcal : s.Calibrates inp
    · rw [(execute_of_calibrates hcal).2, BarrelManagerSubsystem.currentBarrel_findZeroPosition]
    · rw [(execute_eq_swapByHeat hcal).2, currentBarrel_swapByHeat, beforeHeat_cases.2]
  | finish => rfl
  | refresh motor => exact BarrelManagerSubsystem.currentBarrel_refresh_of_not_reaches h

/-- **Swaps do not oscillate.**  In every run, from any state: between any two selections for the
heat there is an `execute`, the second of the two included, that finds the carriage at the side
selected then; and the current barrel is the one that it was to begin with, no refresh having found
the carriage at the selected side, or it is the one of the side that the last such refresh found it
at. -/
theorem swaps_do_not_oscillate (k : BarrelSwapConstants) (s : BarrelSwapState) :
    (∀ before e₁ between e₂, (after (next k) s before).TogglesByHeat k e₁ →
      (after (next k) s (before ++ e₁ :: between)).TogglesByHeat k e₂ →
      ∃ mid e rest, between ++ [e₂] = mid ++ e :: rest ∧
        (after (next k) s (before ++ e₁ :: mid)).FindsAligned k e) ∧
    ∀ events,
      (Each (next k) (fun s e => ¬ s.Confirms k e) s events ∧
        (after (next k) s events).barrelManager.currentBarrel = s.barrelManager.currentBarrel) ∨
      ∃ before motor rest, events = before ++ .refresh motor :: rest ∧
        (after (next k) s before).barrelManager.Reaches k motor ∧
        Each (next k) (fun s e => ¬ s.Confirms k e)
          (after (next k) s (before ++ [.refresh motor])) rest ∧
        BarrelManagerSubsystem.BarrelSide.barrelID k
          (after (next k) s before).barrelManager.getSide =
          some (after (next k) s events).barrelManager.currentBarrel := by
  constructor
  · intro before e₁ between e₂ h₁ h₂
    rw [after_append, after_cons] at h₂
    obtain ⟨mid, e, rest, heq, haligned⟩ := findsAligned_between h₁ h₂
    exact ⟨mid, e, rest, heq, by rwa [after_append, after_cons]⟩
  · intro events
    refine (last_write (fun s : BarrelSwapState => s.barrelManager.currentBarrel)
      fun _ _ => currentBarrel_next).imp_right ?_
    rintro ⟨before, e, rest, rfl, hconfirms, hnone, hvalue⟩
    cases e with
    | init => exact absurd hconfirms id
    | execute => exact absurd hconfirms id
    | finish => exact absurd hconfirms id
    | refresh motor =>
      refine ⟨before, motor, rest, rfl, hconfirms, hnone, ?_⟩
      rw [BarrelManagerSubsystem.currentBarrel_refresh_of_reaches hconfirms, hvalue, after_append]
      rfl

/-- An `execute` while one of the barrels, or none, is at the limit of 200. -/
def exampleHeat (now : UInt32) (heat1 heat2 : UInt16) (torque : Int16) : SwapEvent :=
  .execute ⟨now, false, false, exampleMotor 0 torque, ⟨heat1, heat2, 0, 200⟩⟩

/-- After the calibration the left barrel becomes too hot, and the other side is selected once; when
the carriage has arrived there, and that barrel is too hot as well, the first side is selected
again. -/
example :
    let calibrated := after (next exampleConstants) exampleStart.swap
      [exampleHeat 0 0 0 1200, exampleHeat 500 0 0 1200, .refresh (exampleMotor 2 0)]
    let swapping := [exampleHeat 502 200 0 0, .refresh (exampleMotor 30 0)]
    calibrated.TogglesByHeat exampleConstants (exampleHeat 502 200 0 0) ∧
      ¬ (after (next exampleConstants) calibrated swapping).TogglesByHeat exampleConstants
        (exampleHeat 504 200 200 0) ∧
      (after (next exampleConstants) calibrated
        (swapping ++ [.refresh (exampleMotor 47 0)])).TogglesByHeat exampleConstants
          (exampleHeat 506 200 200 0) := by
  decide +kernel

end BarrelSwapState

end Aimbots.BarrelManager
