import Aimbots.Ballistics.Trajectory
import Aimbots.Jetson.Communicator
import Mathlib.Tactic.Linarith
import Mathlib.Tactic.NormNum

/-!
# `ballistics_solver.cpp`: the solver that the commands share

`solve` keeps its last solution with the time of the target that it was computed for, and answers
with it as long as that is the time of the last found target.  What is kept does not depend on the
speed: between two found targets, every call is answered for the speed of the first one (`Cached`).

The conversion of the vision data is a parameter, by its states: `solve` only reads the state
vectors of its three filters.
-/

namespace Aimbots.Ballistics

open Jetson

noncomputable section

/-- `VisionDataConversion`, with the states `C`: what a found target does to them, from the reading
of the microsecond clock, the position and the delay, and the state vectors (position, velocity,
acceleration) of the filters. -/
structure VisionDataConversion (C : Type*) where
  updateTargetInfo : UInt32 → C → Position → UInt8 → C
  XPositionFilter : C → Vector3
  YPositionFilter : C → Vector3
  ZPositionFilter : C → Vector3

/-- `KinematicKalman::getFuturePrediction`, the product with `stateSpaceMatrix(dt)`. -/
def getFuturePrediction (x : Vector3) (dt : ℝ) : Vector3 where
  x := x.x + dt * x.y + 0.5 * dt ^ 2 * x.z
  y := x.y + dt * x.z
  z := x.z

/-- `VisionDataConversion::getPlatePrediction`, without the time: its argument goes nowhere else. -/
def VisionDataConversion.getPlatePrediction {C : Type*} (vision : VisionDataConversion C) (c : C) :
    MeasuredKinematicState :=
  let xPlate := getFuturePrediction (vision.XPositionFilter c) 0
  let yPlate := getFuturePrediction (vision.YPositionFilter c) 0
  let zPlate := getFuturePrediction (vision.ZPositionFilter c) 0
  { position := ⟨xPlate.x, yPlate.x, zPlate.x⟩
    velocity := ⟨xPlate.y, yPlate.y, zPlate.y⟩
    acceleration := ⟨xPlate.z, yPlate.z, zPlate.z⟩ }

/-- `BallisticsSolver::BallisticsSolution`. -/
structure BallisticsSolution where
  pitchAngle : ℝ
  yawAngle : ℝ
  distanceToTarget : ℝ
  timeToTarget : ℝ

/-- The data members of `BallisticsSolver`. -/
structure BallisticsSolver where
  barrelOriginFromGimbalOrigin : Vector3
  lastPlatePredictionTime : UInt32
  lastBallisticsSolution : Option BallisticsSolution

namespace BallisticsSolver

/-- The constructor. -/
def construct (barrelOriginFromGimbalOrigin : Vector3) : BallisticsSolver :=
  ⟨barrelOriginFromGimbalOrigin, 0, none⟩

/-- `defaultProjectileSpeed`, in metres per second. -/
def defaultProjectileSpeed : ℝ := 30

/-- What one call of `solve` does: the members it leaves, its result, and the optional that it
copies the value of to `solutionDisplay`, if it comes to that. -/
structure Solve where
  solver : BallisticsSolver
  result : Option BallisticsSolution
  displayed : Option (Option BallisticsSolution)

/-- What `findTargetProjectileIntersection` yields for a target and a speed, with the distance. -/
def solution (barrelOriginFromGimbalOrigin : Vector3) (target : MeasuredKinematicState)
    (projectileSpeed : ℝ) : Option BallisticsSolution :=
  (findTargetProjectileIntersection barrelOriginFromGimbalOrigin target projectileSpeed 3 0).map
    fun i => ⟨i.turretPitch, i.turretYaw, target.position.getLength, i.projectedTravelTime⟩

variable {C : Type*} (vision : VisionDataConversion C)

/-- The Jetson is online and its last message is `FOUND` or better. -/
def TargetSeen (cvCommunicator : JetsonCommunicator C) (now : UInt32) : Prop :=
  cvCommunicator.isJetsonOnline now = true ∧ CVState.FOUND ≤ cvCommunicator.lastMessage.cvState

instance (cvCommunicator : JetsonCommunicator C) (now : UInt32) :
    Decidable (TargetSeen cvCommunicator now) :=
  inferInstanceAs (Decidable (_ ∧ _))

/-- `solve`; `now` is the millisecond clock. -/
def solve (s : BallisticsSolver) (cvCommunicator : JetsonCommunicator C) (now : UInt32)
    (projectileSpeed : Option ℝ) : Solve :=
  if ¬ TargetSeen cvCommunicator now then ⟨s, none, none⟩
  else if s.lastPlatePredictionTime = cvCommunicator.lastFoundTargetTime then
    ⟨s, s.lastBallisticsSolution, none⟩
  else
    let targetKinematicState := vision.getPlatePrediction cvCommunicator.visionDataConverter
    let lastBallisticsSolution := solution s.barrelOriginFromGimbalOrigin targetKinematicState
      (projectileSpeed.getD defaultProjectileSpeed)
    { solver := { s with
        lastPlatePredictionTime := cvCommunicator.lastFoundTargetTime
        lastBallisticsSolution }
      result := lastBallisticsSolution
      displayed := some lastBallisticsSolution }

variable {vision} {s : BallisticsSolver} {cvCommunicator : JetsonCommunicator C} {now : UInt32}

/-- A call that sees no target does nothing. -/
theorem solve_of_not_targetSeen (h : ¬ TargetSeen cvCommunicator now) (speed : Option ℝ) :
    s.solve vision cvCommunicator now speed = ⟨s, none, none⟩ := by
  rw [solve, if_pos h]

/-- A second call for the same target answers with what is kept. -/
theorem solve_of_time_eq (h : TargetSeen cvCommunicator now)
    (htime : s.lastPlatePredictionTime = cvCommunicator.lastFoundTargetTime) (speed : Option ℝ) :
    s.solve vision cvCommunicator now speed = ⟨s, s.lastBallisticsSolution, none⟩ := by
  rw [solve, if_neg (not_not.2 h), if_pos htime]

/-- The first call for a target computes the solution, and keeps it. -/
theorem solve_of_time_ne (h : TargetSeen cvCommunicator now)
    (htime : s.lastPlatePredictionTime ≠ cvCommunicator.lastFoundTargetTime) (speed : Option ℝ) :
    s.solve vision cvCommunicator now speed =
      { solver :=
          ⟨s.barrelOriginFromGimbalOrigin, cvCommunicator.lastFoundTargetTime,
            solution s.barrelOriginFromGimbalOrigin
              (vision.getPlatePrediction cvCommunicator.visionDataConverter)
              (speed.getD defaultProjectileSpeed)⟩
        result := solution s.barrelOriginFromGimbalOrigin
          (vision.getPlatePrediction cvCommunicator.visionDataConverter)
          (speed.getD defaultProjectileSpeed)
        displayed := some (solution s.barrelOriginFromGimbalOrigin
          (vision.getPlatePrediction cvCommunicator.visionDataConverter)
          (speed.getD defaultProjectileSpeed)) } := by
  rw [solve, if_neg (not_not.2 h), if_neg htime]

end BallisticsSolver

/-! ### Runs -/

open BallisticsSolver

/-- The communicator and the solver that the commands share. -/
structure System (C : Type*) where
  cvCommunicator : JetsonCommunicator C
  ballisticsSolver : BallisticsSolver

variable {C : Type*} (vision : VisionDataConversion C) (barrelOriginFromGimbalOrigin : Vector3)

/-- The states that calls of `updateSerial` and of `solve` lead to, in any order and with any
speeds.  With them goes the speed of the first call of `solve` that saw the last found target, if
there was one.

The microsecond clock has gone on between the target that was solved for last and one that is found
later: it reads differently. -/
inductive Reachable : System C → Option ℝ → Prop
  | start (c : C) (buffer : Vector UInt8 JETSON_MESSAGE_SIZE) (time now : UInt32)
      (position : Position) :
      Reachable ⟨(JetsonCommunicator.construct c buffer time position).init now,
        .construct barrelOriginFromGimbalOrigin⟩ none
  | updateSerial {s : System C} {first : Option ℝ} {call : SerialCall}
      {cvCommunicator : JetsonCommunicator C} {message : Option JetsonMessage}
      (h : Reachable s first)
      (hcall : s.cvCommunicator.updateSerial vision.updateTargetInfo call =
        some (cvCommunicator, message))
      (hclock : (∃ m ∈ message, CVState.FOUND ≤ m.cvState) →
        s.ballisticsSolver.lastPlatePredictionTime ≠ call.timeMicroseconds) :
      Reachable { s with cvCommunicator }
        (if ∃ m ∈ message, CVState.FOUND ≤ m.cvState then none else first)
  | solve {s : System C} {first : Option ℝ} (h : Reachable s first) (now : UInt32)
      (projectileSpeed : Option ℝ) :
      Reachable
        { s with
          ballisticsSolver :=
            (s.ballisticsSolver.solve vision s.cvCommunicator now projectileSpeed).solver }
        (if TargetSeen s.cvCommunicator now then
          some (first.getD (projectileSpeed.getD defaultProjectileSpeed)) else first)

/-- What is kept in the solver while the last message is `FOUND` or better: nothing for this
target before the first call, and afterwards the solution for the speed of the first call. -/
def Cached (s : System C) (first : Option ℝ) : Prop :=
  match first with
  | none =>
    s.ballisticsSolver.lastPlatePredictionTime ≠ s.cvCommunicator.lastFoundTargetTime
  | some speed =>
    s.ballisticsSolver.lastPlatePredictionTime = s.cvCommunicator.lastFoundTargetTime ∧
      s.ballisticsSolver.lastBallisticsSolution = solution barrelOriginFromGimbalOrigin
        (vision.getPlatePrediction s.cvCommunicator.visionDataConverter) speed

variable {vision barrelOriginFromGimbalOrigin} {s : System C} {first : Option ℝ}

/-- One call of `solve` on a solver that keeps the right solution. -/
theorem Cached.solve
    (horigin : s.ballisticsSolver.barrelOriginFromGimbalOrigin = barrelOriginFromGimbalOrigin)
    (hcached : Cached vision barrelOriginFromGimbalOrigin s first) {now : UInt32}
    (hseen : TargetSeen s.cvCommunicator now) (speed : Option ℝ) :
    (s.ballisticsSolver.solve vision s.cvCommunicator now speed).result =
        solution barrelOriginFromGimbalOrigin
          (vision.getPlatePrediction s.cvCommunicator.visionDataConverter)
          (first.getD (speed.getD defaultProjectileSpeed)) ∧
      Cached vision barrelOriginFromGimbalOrigin
        { s with
          ballisticsSolver :=
            (s.ballisticsSolver.solve vision s.cvCommunicator now speed).solver }
        (some (first.getD (speed.getD defaultProjectileSpeed))) := by
  cases first with
  | none =>
    rw [solve_of_time_ne hseen hcached, horigin]
    exact ⟨rfl, rfl, rfl⟩
  | some v =>
    rw [solve_of_time_eq hseen hcached.1]
    exact ⟨hcached.2, hcached⟩

theorem solve_barrelOrigin (b : BallisticsSolver) (cvCommunicator : JetsonCommunicator C)
    (now : UInt32) (speed : Option ℝ) :
    (b.solve vision cvCommunicator now speed).solver.barrelOriginFromGimbalOrigin =
      b.barrelOriginFromGimbalOrigin := by
  simp only [BallisticsSolver.solve]
  split_ifs <;> rfl

namespace Reachable

theorem barrelOrigin (h : Reachable vision barrelOriginFromGimbalOrigin s first) :
    s.ballisticsSolver.barrelOriginFromGimbalOrigin = barrelOriginFromGimbalOrigin := by
  induction h with
  | start => rfl
  | updateSerial _ _ _ ih => exact ih
  | solve _ now speed ih => rw [solve_barrelOrigin, ih]

/-- While a target is seen, the solver keeps what the first call computed for it. -/
theorem cached (h : Reachable vision barrelOriginFromGimbalOrigin s first)
    (hfound : CVState.FOUND ≤ s.cvCommunicator.lastMessage.cvState) :
    Cached vision barrelOriginFromGimbalOrigin s first := by
  induction h with
  | start =>
    -- the constructor leaves a message that found nothing
    exact absurd (show CVState.FOUND ≤ 0 from hfound) (by decide)
  | @updateSerial s first call cvCommunicator message _ hcall hclock ih =>
    obtain ⟨hlast, htime, hframe⟩ := JetsonCommunicator.updateSerial_vision hcall
    have hfound : CVState.FOUND ≤ cvCommunicator.lastMessage.cvState := hfound
    rw [hlast] at hfound
    by_cases hm : ∃ m ∈ message, CVState.FOUND ≤ m.cvState
    · -- a new target: nothing is kept for it
      rw [if_pos hm]
      show s.ballisticsSolver.lastPlatePredictionTime ≠ cvCommunicator.lastFoundTargetTime
      rw [htime hm]
      exact hclock hm
    · cases message with
      | none =>
        obtain ⟨hconverter, htime⟩ := hframe (by simp)
        rw [if_neg hm]
        have hprev := ih hfound
        cases first with
        | none => exact fun heq => hprev (heq.trans htime)
        | some v => exact ⟨hprev.1.trans htime.symm, by rw [hprev.2, ← hconverter]⟩
      | some m =>
        -- the last message is this one, and it is not of a target
        exact absurd ⟨m, rfl, hfound⟩ hm
  | @solve s first h now speed ih =>
    by_cases hseen : TargetSeen s.cvCommunicator now
    · rw [if_pos hseen]
      exact ((ih hfound).solve h.barrelOrigin hseen speed).2
    · rw [if_neg hseen, solve_of_not_targetSeen hseen]
      exact ih hfound

/-- A sequence of calls of `updateSerial`, at times that were not solved for. -/
theorem run {calls : List SerialCall}
    (h : Reachable vision barrelOriginFromGimbalOrigin s first)
    (hclock : ∀ call ∈ calls,
      s.ballisticsSolver.lastPlatePredictionTime ≠ call.timeMicroseconds)
    {cvCommunicator : JetsonCommunicator C} {messages : List JetsonMessage}
    (hrun : s.cvCommunicator.run vision.updateTargetInfo calls = some (cvCommunicator, messages)) :
    ∃ first', Reachable vision barrelOriginFromGimbalOrigin { s with cvCommunicator } first' := by
  induction calls generalizing s first messages with
  | nil =>
    simp only [JetsonCommunicator.run, Option.some.injEq, Prod.mk.injEq] at hrun
    obtain ⟨rfl, -⟩ := hrun
    exact ⟨first, h⟩
  | cons call calls ih =>
    simp only [JetsonCommunicator.run, Option.bind_eq_bind, Option.bind_eq_some_iff] at hrun
    obtain ⟨⟨c₁, m⟩, hcall, ⟨c₂, ms⟩, hrest, heq⟩ := hrun
    obtain ⟨rfl, -⟩ := Prod.mk.inj (Option.some.inj heq)
    exact ih (s := { s with cvCommunicator := c₁ })
      (h.updateSerial hcall fun _ => hclock call List.mem_cons_self)
      (fun call hmem => hclock call (List.mem_cons_of_mem _ hmem)) hrest

end Reachable

/-! ### A target that is found twice -/

/-- A target ten metres ahead, that is twenty metres ahead when it is found a second time. -/
def receding : VisionDataConversion ℕ where
  updateTargetInfo _ n _ _ := n + 1
  XPositionFilter _ := ⟨0, 0, 0⟩
  YPositionFilter n := ⟨if n = 1 then 10 else 20, 0, 0⟩
  ZPositionFilter _ := ⟨-0.5, 0, 0⟩

/-- The communicator before the first message. -/
def idle : JetsonCommunicator ℕ :=
  (JetsonCommunicator.construct 0 (Vector.replicate 15 0) 0 ⟨0, 0, 0⟩).init 0

/-- The calls that receive a message with a target, at the microsecond 5. -/
def foundCalls : List SerialCall :=
  (JetsonMessage.toBytes ⟨0x61, 0, 0, 0, 0, 1⟩).toList.map fun b => ⟨0, 5, some b⟩

theorem run_foundCalls :
    ∃ once twice messages messages',
      idle.run receding.updateTargetInfo foundCalls = some (once, messages) ∧
      once.run receding.updateTargetInfo foundCalls = some (twice, messages') ∧
      TargetSeen once 0 ∧ once.visionDataConverter = 1 ∧ once.lastFoundTargetTime = 5 ∧
      TargetSeen twice 0 ∧ twice.visionDataConverter = 2 ∧ twice.lastFoundTargetTime = 5 :=
  ⟨_, _, _, _, rfl, rfl, by decide, rfl, rfl, by decide, rfl, rfl⟩

theorem reachable_idle : Reachable receding ⟨0, 0, 0⟩ ⟨idle, construct ⟨0, 0, 0⟩⟩ none :=
  .start 0 (Vector.replicate 15 0) 0 0 ⟨0, 0, 0⟩

/-! ### What a call is answered with -/

/-- **Every call that sees a target is answered for the speed of the first one** that saw it, and
for its own speed if it is the first; the others are answered with no solution. -/
theorem Reachable.solve_result (h : Reachable vision barrelOriginFromGimbalOrigin s first)
    (now : UInt32) (projectileSpeed : Option ℝ) :
    (s.ballisticsSolver.solve vision s.cvCommunicator now projectileSpeed).result =
      if TargetSeen s.cvCommunicator now then
        solution barrelOriginFromGimbalOrigin
          (vision.getPlatePrediction s.cvCommunicator.visionDataConverter)
          (first.getD (projectileSpeed.getD defaultProjectileSpeed))
      else none := by
  by_cases hseen : TargetSeen s.cvCommunicator now
  · rw [if_pos hseen]
    exact ((h.cached hseen.2).solve h.barrelOrigin hseen projectileSpeed).1
  · rw [if_neg hseen, solve_of_not_targetSeen hseen]

theorem Reachable.solve_result_once :
    ∃ (s : System ℕ) (first : Option ℝ), TargetSeen s.cvCommunicator 0 ∧
      (s.ballisticsSolver.solve receding s.cvCommunicator 0 (some 30)).result =
        if TargetSeen s.cvCommunicator 0 then
          solution ⟨0, 0, 0⟩ (receding.getPlatePrediction s.cvCommunicator.visionDataConverter)
            (first.getD ((some 30).getD defaultProjectileSpeed))
        else none := by
  obtain ⟨once, _, _, _, hrun, _, hseen, _⟩ := run_foundCalls
  obtain ⟨first, hreach⟩ := reachable_idle.run (by decide) hrun
  exact ⟨_, first, hseen, Reachable.solve_result hreach 0 (some 30)⟩

/-! ### Two speeds, and two targets at one time -/

theorem getPlatePrediction_receding (n : ℕ) :
    receding.getPlatePrediction n =
      ⟨⟨0, if n = 1 then 10 else 20, -0.5⟩, ⟨0, 0, 0⟩, ⟨0, 0, 0⟩⟩ := by
  simp [VisionDataConversion.getPlatePrediction, getFuturePrediction, receding]

theorem horizontalDist_ahead {y : ℝ} (hy : 0 ≤ y) (z : ℝ) : horizontalDist ⟨0, y, z⟩ 0 = y := by
  simp [horizontalDist, Real.sqrt_sq hy]

theorem solution_once : solution ⟨0, 0, 0⟩ (receding.getPlatePrediction 1) 30 ≠ none := by
  have hsome : (findTargetProjectileIntersection ⟨0, 0, 0⟩
      ⟨⟨0, 10, -0.5⟩, ⟨0, 0, 0⟩, ⟨0, 0, 0⟩⟩ 30 3 0).isSome := by
    refine findTargetProjectileIntersection_isSome 3 ?_ (by norm_num) ?_ (by norm_num) (by norm_num)
    · rw [horizontalDist_ahead] <;> norm_num
    · rw [horizontalDist_ahead] <;> norm_num [sqrtTerm, ACCELERATION_GRAVITY]
  rw [solution, getPlatePrediction_receding, if_pos rfl, ne_eq, Option.map_eq_none_iff]
  exact Option.isSome_iff_ne_none.1 hsome

theorem solution_once_slow : solution ⟨0, 0, 0⟩ (receding.getPlatePrediction 1) 1 = none := by
  rw [solution, getPlatePrediction_receding, if_pos rfl,
    findTargetProjectileIntersection_eq_none 2, Option.map_none]
  rw [horizontalDist_ahead] <;> norm_num [sqrtTerm, ACCELERATION_GRAVITY]

theorem solution_twice_slow : solution ⟨0, 0, 0⟩ (receding.getPlatePrediction 2) 1 = none := by
  rw [solution, getPlatePrediction_receding, if_neg (by decide),
    findTargetProjectileIntersection_eq_none 2, Option.map_none]
  rw [horizontalDist_ahead] <;> norm_num [sqrtTerm, ACCELERATION_GRAVITY]

theorem distanceToTarget_of_solution {origin : Vector3} {target : MeasuredKinematicState} {v : ℝ}
    {b : BallisticsSolution} (h : solution origin target v = some b) :
    b.distanceToTarget = target.position.getLength := by
  obtain ⟨i, -, rfl⟩ := Option.map_eq_some_iff.1 h
  rfl

/-- The two targets are at different distances, so they have different solutions. -/
theorem solution_once_ne_twice : solution ⟨0, 0, 0⟩ (receding.getPlatePrediction 1) 30 ≠
    solution ⟨0, 0, 0⟩ (receding.getPlatePrediction 2) 30 := by
  obtain ⟨b, hb⟩ := Option.ne_none_iff_exists'.1 solution_once
  intro heq
  have honce := distanceToTarget_of_solution hb
  have htwice := distanceToTarget_of_solution (heq ▸ hb)
  rw [honce, getPlatePrediction_receding, getPlatePrediction_receding, if_pos rfl,
    if_neg (by decide)] at htwice
  refine ne_of_lt ?_ htwice
  exact Real.sqrt_lt_sqrt (by norm_num) (by norm_num)

/-- A call with speed 1 finds no solution, and a call with speed 30 is then answered with none,
though there is one for it.  And a second target at the time of the first is answered with the
solution for the first, which is not its own. -/
theorem solve_ignores_speed_and_target :
    (¬ ∀ (s : System ℕ) (first : Option ℝ), Reachable receding ⟨0, 0, 0⟩ s first →
      ∀ (now : UInt32) (projectileSpeed : Option ℝ), TargetSeen s.cvCommunicator now →
        (s.ballisticsSolver.solve receding s.cvCommunicator now projectileSpeed).result =
          solution ⟨0, 0, 0⟩ (receding.getPlatePrediction s.cvCommunicator.visionDataConverter)
            (projectileSpeed.getD defaultProjectileSpeed)) ∧
    ∃ once twice messages messages',
      idle.run receding.updateTargetInfo foundCalls = some (once, messages) ∧
      once.run receding.updateTargetInfo foundCalls = some (twice, messages') ∧
      TargetSeen twice 0 ∧
      let solver := ((construct ⟨0, 0, 0⟩).solve receding once 0 none).solver
      (solver.solve receding twice 0 none).result ≠
        solution ⟨0, 0, 0⟩ (receding.getPlatePrediction twice.visionDataConverter)
          defaultProjectileSpeed := by
  obtain ⟨once, twice, messages, messages', hrun, hrun', hseen, hcount, htime, hseen', hcount',
    htime'⟩ := run_foundCalls
  have hne : (construct ⟨0, 0, 0⟩).lastPlatePredictionTime ≠ once.lastFoundTargetTime := by
    rw [htime]
    decide
  constructor
  · intro hall
    obtain ⟨first, hreach⟩ := reachable_idle.run (by decide) hrun
    have hcall := hall _ _ (hreach.solve 0 (some 1)) 0 (some 30) hseen
    rw [solve_of_time_ne hseen hne, solve_of_time_eq hseen rfl, hcount] at hcall
    exact solution_once (hcall.symm.trans solution_once_slow)
  · refine ⟨once, twice, messages, messages', hrun, hrun', hseen', ?_⟩
    simp only [solve_of_time_ne hseen hne]
    rw [solve_of_time_eq hseen' (htime.trans htime'.symm), hcount, hcount']
    exact solution_once_ne_twice

end

end Aimbots.Ballistics
