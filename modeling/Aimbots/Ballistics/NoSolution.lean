import Aimbots.Ballistics.BallisticsSolver

/-!
# Targets without a solution

`solve` clears what it keeps when there is no intersection, and answers every later call for the
same target with no solution.  But before it answers the first of these calls it copies the solution
that is not there, for display.
-/

namespace Aimbots.Ballistics

open Jetson BallisticsSolver

noncomputable section

variable {C : Type*} (vision : VisionDataConversion C)

/-- The states that calls lead to from `s` as long as no other target is found: calls of
`updateSerial` that decode no message with a target, and calls of `solve`. -/
inductive SameTarget (s : System C) : System C → Prop
  | refl : SameTarget s s
  | updateSerial {t : System C} {call : SerialCall} {cvCommunicator : JetsonCommunicator C}
      {message : Option JetsonMessage} (h : SameTarget s t)
      (hcall : t.cvCommunicator.updateSerial vision.updateTargetInfo call =
        some (cvCommunicator, message))
      (hmessage : ∀ m ∈ message, ¬ CVState.FOUND ≤ m.cvState) :
      SameTarget s { t with cvCommunicator }
  | solve {t : System C} (h : SameTarget s t) (now : UInt32) (projectileSpeed : Option ℝ) :
      SameTarget s
        { t with
          ballisticsSolver :=
            (t.ballisticsSolver.solve vision t.cvCommunicator now projectileSpeed).solver }

/-- The call of `solve` in the state `s` handles a target without a solution: it reads no solution
that is not there, it answers with none exactly if the target is not available or there is no
intersection for the speed that it is answered for, and after such an answer so do all calls for the
same target. -/
structure HandlesNoSolution (barrelOriginFromGimbalOrigin : Vector3) (s : System C)
    (first : Option ℝ) (now : UInt32) (projectileSpeed : Option ℝ) : Prop where
  reads : (s.ballisticsSolver.solve vision s.cvCommunicator now projectileSpeed).displayed ≠
    some none
  result_eq_none : (s.ballisticsSolver.solve vision s.cvCommunicator now projectileSpeed).result =
      none ↔
    ¬ TargetSeen s.cvCommunicator now ∨
      solution barrelOriginFromGimbalOrigin
        (vision.getPlatePrediction s.cvCommunicator.visionDataConverter)
        (first.getD (projectileSpeed.getD defaultProjectileSpeed)) = none
  later : TargetSeen s.cvCommunicator now →
    (s.ballisticsSolver.solve vision s.cvCommunicator now projectileSpeed).result = none →
    ∀ t, SameTarget vision
        { s with
          ballisticsSolver :=
            (s.ballisticsSolver.solve vision s.cvCommunicator now projectileSpeed).solver } t →
      ∀ (now' : UInt32) (projectileSpeed' : Option ℝ),
        (t.ballisticsSolver.solve vision t.cvCommunicator now' projectileSpeed').result = none

/-- The call is the first one that sees the last found target, and there is no intersection. -/
def FailsFirst (s : System C) (now : UInt32) (projectileSpeed : Option ℝ) : Prop :=
  TargetSeen s.cvCommunicator now ∧
    s.ballisticsSolver.lastPlatePredictionTime ≠ s.cvCommunicator.lastFoundTargetTime ∧
    solution s.ballisticsSolver.barrelOriginFromGimbalOrigin
      (vision.getPlatePrediction s.cvCommunicator.visionDataConverter)
      (projectileSpeed.getD defaultProjectileSpeed) = none

/-- For the last found target the solver keeps that it has no solution. -/
def KeepsNone (s : System C) : Prop :=
  s.ballisticsSolver.lastPlatePredictionTime = s.cvCommunicator.lastFoundTargetTime ∧
    s.ballisticsSolver.lastBallisticsSolution = none

variable {vision} {barrelOriginFromGimbalOrigin : Vector3} {s t : System C} {first : Option ℝ}
  {now : UInt32} {projectileSpeed : Option ℝ}

/-- The only solution that is copied is that of a call that computes one. -/
theorem displayed_eq_some_none_iff :
    (s.ballisticsSolver.solve vision s.cvCommunicator now projectileSpeed).displayed = some none ↔
      FailsFirst vision s now projectileSpeed := by
  by_cases hseen : TargetSeen s.cvCommunicator now
  · by_cases htime :
        s.ballisticsSolver.lastPlatePredictionTime = s.cvCommunicator.lastFoundTargetTime
    · rw [solve_of_time_eq hseen htime]
      exact iff_of_false nofun fun hfails => hfails.2.1 htime
    · rw [solve_of_time_ne hseen htime, Option.some.injEq]
      exact ⟨fun hnone => ⟨hseen, htime, hnone⟩, fun hfails => hfails.2.2⟩
  · rw [solve_of_not_targetSeen hseen]
    exact iff_of_false nofun fun hfails => hseen hfails.1

/-- An answer with none to a call that sees the target is kept. -/
theorem keepsNone_solve (hseen : TargetSeen s.cvCommunicator now)
    (hnone : (s.ballisticsSolver.solve vision s.cvCommunicator now projectileSpeed).result = none) :
    KeepsNone
      { s with
        ballisticsSolver :=
          (s.ballisticsSolver.solve vision s.cvCommunicator now projectileSpeed).solver } := by
  by_cases htime :
      s.ballisticsSolver.lastPlatePredictionTime = s.cvCommunicator.lastFoundTargetTime
  · rw [solve_of_time_eq hseen htime] at hnone ⊢
    exact ⟨htime, hnone⟩
  · rw [solve_of_time_ne hseen htime] at hnone ⊢
    exact ⟨rfl, hnone⟩

theorem KeepsNone.solve_eq (h : KeepsNone s) (now : UInt32) (projectileSpeed : Option ℝ) :
    s.ballisticsSolver.solve vision s.cvCommunicator now projectileSpeed =
      ⟨s.ballisticsSolver, none, none⟩ := by
  by_cases hseen : TargetSeen s.cvCommunicator now
  · rw [solve_of_time_eq hseen h.1, h.2]
  · rw [solve_of_not_targetSeen hseen]

/-- It is kept until another target is found. -/
theorem SameTarget.keepsNone (h : SameTarget vision s t) (hs : KeepsNone s) : KeepsNone t := by
  induction h with
  | refl => exact hs
  | updateSerial _ hcall hmessage ih =>
    have htime := ((JetsonCommunicator.updateSerial_vision hcall).2.2 hmessage).2
    exact ⟨ih.1.trans htime.symm, ih.2⟩
  | solve _ now projectileSpeed ih =>
    rw [ih.solve_eq now projectileSpeed]
    exact ih

/-- **A call handles a target without a solution** if and only if it is not the first to see it. -/
theorem Reachable.handlesNoSolution_iff (h : Reachable vision barrelOriginFromGimbalOrigin s first)
    (now : UInt32) (projectileSpeed : Option ℝ) :
    HandlesNoSolution vision barrelOriginFromGimbalOrigin s first now projectileSpeed ↔
      ¬ FailsFirst vision s now projectileSpeed := by
  rw [← displayed_eq_some_none_iff]
  constructor
  · exact fun handles => handles.reads
  · intro hreads
    refine ⟨hreads, ?_, ?_⟩
    · by_cases hseen : TargetSeen s.cvCommunicator now
      · have hresult := ((h.cached hseen.2).solve h.barrelOrigin hseen projectileSpeed).1
        rw [hresult, or_iff_right (not_not.2 hseen)]
      · rw [solve_of_not_targetSeen hseen]
        exact iff_of_true rfl (.inl hseen)
    · intro hseen hnone t hsame now' projectileSpeed'
      rw [(hsame.keepsNone (keepsNone_solve hseen hnone)).solve_eq]

/-- A target is found twenty metres ahead, and no call has seen it yet: one for a metre a second
fails. -/
theorem reachable_twice :
    ∃ (s : System ℕ) (first : Option ℝ), Reachable receding ⟨0, 0, 0⟩ s first ∧
      FailsFirst receding s 0 (some 1) := by
  obtain ⟨once, twice, _, _, hrun, hrun', _, _, _, hseen, hcount, htime⟩ := run_foundCalls
  have hclock : ∀ call ∈ foundCalls,
      (construct ⟨0, 0, 0⟩).lastPlatePredictionTime ≠ call.timeMicroseconds := by decide
  obtain ⟨first, honce⟩ := reachable_idle.run hclock hrun
  obtain ⟨first', htwice⟩ := honce.run hclock hrun'
  refine ⟨_, first', htwice, hseen, ?_, ?_⟩
  · show (construct ⟨0, 0, 0⟩).lastPlatePredictionTime ≠ twice.lastFoundTargetTime
    rw [htime]
    decide
  · show solution ⟨0, 0, 0⟩ (receding.getPlatePrediction twice.visionDataConverter) 1 = none
    rw [hcount, solution_twice_slow]

theorem Reachable.handlesNoSolution_iff_twice :
    ∃ (s : System ℕ) (first : Option ℝ),
      HandlesNoSolution receding ⟨0, 0, 0⟩ s first 0 (some 1) ↔
        ¬ FailsFirst receding s 0 (some 1) := by
  obtain ⟨s, first, h, -⟩ := reachable_twice
  exact ⟨s, first, Reachable.handlesNoSolution_iff h 0 (some 1)⟩

/-- The call that sees it first copies the solution that is not there. -/
theorem reads_no_solution :
    ∃ (s : System ℕ) (first : Option ℝ), Reachable receding ⟨0, 0, 0⟩ s first ∧
      (s.ballisticsSolver.solve receding s.cvCommunicator 0 (some 1)).displayed = some none ∧
      ¬ HandlesNoSolution receding ⟨0, 0, 0⟩ s first 0 (some 1) := by
  obtain ⟨s, first, h, hfails⟩ := reachable_twice
  have hdisplayed := displayed_eq_some_none_iff.2 hfails
  exact ⟨s, first, h, hdisplayed, fun handles => handles.reads hdisplayed⟩

end

end Aimbots.Ballistics
