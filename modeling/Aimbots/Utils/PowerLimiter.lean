import Aimbots.Utils.SmoothPid
import Mathlib.Tactic.FieldSimp
import Mathlib.Tactic.Linarith
import Mathlib.Tactic.LinearCombination
import Mathlib.Tactic.Positivity
import Mathlib.Tactic.Ring

/-!
# `power_limiter.cpp`

The limiter estimates the energy that is left in the chassis' buffer and scales the power of the
chassis down as the estimate falls.  Between two reports of the referee the estimate follows the
power balance, and each new report replaces it.

The constructor keeps `startingEnergyBuffer` and leaves `energyBuffer` uninitialised.  As long as
the serial line receives data, the estimates are those of a limiter that starts with
`startingEnergyBuffer` exactly if that is what was in memory or the first call brings a report
(`meets_iff`).  While the line is lost the limiter answers 1, whatever its estimate.
-/

namespace Aimbots.Utils

/-- The arguments that a `PowerLimiter` is constructed with and keeps. -/
structure PowerLimiterArgs where
  startingEnergyBuffer : ℚ
  energyBufferLimitThreshold : ℚ
  energyBufferCritThreshold : ℚ
  safetyFactor : ℚ
  crit_nonneg : 0 ≤ energyBufferCritThreshold
  crit_lt_limit : energyBufferCritThreshold < energyBufferLimitThreshold

/-- What a call of `getPowerLimitRatio` reads: whether the referee's serial line receives data, the
last data of the chassis and when they came, and the clock, which is read twice. -/
structure PowerReading where
  refSerialReceivingData : Bool
  volt : UInt16
  current : UInt16
  powerBuffer : UInt16
  powerConsumptionLimit : UInt16
  robotDataReceivedTimestamp : UInt32
  time : UInt32
  timeAgain : UInt32
deriving DecidableEq, Repr

/-- The members of a `PowerLimiter` that change. -/
structure PowerLimiter (args : PowerLimiterArgs) where
  energyBuffer : ℚ
  consumedPower : ℚ
  prevTime : UInt32
  prevRobotDataReceivedTimestamp : UInt32
deriving DecidableEq, Repr

/-- The power that the chassis draws, in watts. -/
def PowerReading.chassisPower (o : PowerReading) : ℚ :=
  o.volt.toNat * o.current.toNat / 1000000

namespace PowerLimiter

variable {args : PowerLimiterArgs}

/-- The constructor.  `energyBuffer` is not initialised: it holds what was in memory. -/
def construct (args : PowerLimiterArgs) (memory : ℚ) : PowerLimiter args := ⟨memory, 0, 0, 0⟩

/-- `updatePowerAndEnergyBuffer`. -/
def updatePowerAndEnergyBuffer (p : PowerLimiter args) (o : PowerReading) : PowerLimiter args :=
  let newChassisPower := o.chassisPower
  let dt : ℚ := (o.time - p.prevTime).toNat
  let energyBuffer := p.energyBuffer -
    (p.consumedPower * args.safetyFactor - o.powerConsumptionLimit.toNat) * dt / 1000
  if o.robotDataReceivedTimestamp ≠ p.prevRobotDataReceivedTimestamp then
    { energyBuffer := o.powerBuffer.toNat
      consumedPower := newChassisPower
      prevTime := o.timeAgain
      prevRobotDataReceivedTimestamp := o.robotDataReceivedTimestamp }
  else
    { p with
      energyBuffer
      consumedPower := newChassisPower
      prevTime := o.timeAgain }

/-- The ratio for an estimate. -/
def powerLimitRatio (args : PowerLimiterArgs) (energyBuffer : ℚ) : ℚ :=
  if energyBuffer < args.energyBufferLimitThreshold then
    limitVal ((energyBuffer - args.energyBufferCritThreshold) / args.energyBufferLimitThreshold) 0 1
  else 1

/-- `getPowerLimitRatio`. -/
def getPowerLimitRatio (p : PowerLimiter args) (o : PowerReading) : PowerLimiter args × ℚ :=
  if !o.refSerialReceivingData then (p, 1)
  else
    let p := p.updatePowerAndEnergyBuffer o
    (p, powerLimitRatio args p.energyBuffer)

/-- The limiter after some calls. -/
def after (p : PowerLimiter args) (calls : List PowerReading) : PowerLimiter args :=
  calls.foldl (fun p o => (p.getPowerLimitRatio o).1) p

@[simp] theorem after_cons (p : PowerLimiter args) (o : PowerReading) (calls : List PowerReading) :
    p.after (o :: calls) = (p.getPowerLimitRatio o).1.after calls := rfl

theorem after_append (p : PowerLimiter args) (calls calls' : List PowerReading) :
    p.after (calls ++ calls') = (p.after calls).after calls' :=
  List.foldl_append

/-! ### The ratio -/

variable {e e' : ℚ}

theorem powerLimitRatio_of_le (h : args.energyBufferLimitThreshold ≤ e) :
    powerLimitRatio args e = 1 :=
  if_neg (not_lt.2 h)

theorem powerLimitRatio_of_lt (h : e < args.energyBufferLimitThreshold) :
    powerLimitRatio args e =
      max 0 ((e - args.energyBufferCritThreshold) / args.energyBufferLimitThreshold) := by
  have hcrit := args.crit_nonneg
  have hlimit : 0 < args.energyBufferLimitThreshold := hcrit.trans_lt args.crit_lt_limit
  have hle : (e - args.energyBufferCritThreshold) / args.energyBufferLimitThreshold ≤ 1 := by
    rw [div_le_one hlimit]
    linarith
  rw [powerLimitRatio, if_pos h, limitVal_eq_clamp zero_le_one, min_eq_left hle]

theorem powerLimitRatio_of_le_crit (h : e ≤ args.energyBufferCritThreshold) :
    powerLimitRatio args e = 0 := by
  have hlimit : 0 < args.energyBufferLimitThreshold := args.crit_nonneg.trans_lt args.crit_lt_limit
  rw [powerLimitRatio_of_lt (h.trans_lt args.crit_lt_limit), max_eq_left]
  exact div_nonpos_of_nonpos_of_nonneg (sub_nonpos.2 h) hlimit.le

theorem powerLimitRatio_mem (args : PowerLimiterArgs) (e : ℚ) :
    powerLimitRatio args e ∈ Set.Icc 0 1 := by
  rcases le_or_gt args.energyBufferLimitThreshold e with h | h
  · rw [powerLimitRatio_of_le h]
    exact ⟨zero_le_one, le_rfl⟩
  · rw [powerLimitRatio, if_pos h]
    exact limitVal_mem_Icc zero_le_one

theorem powerLimitRatio_mono (args : PowerLimiterArgs) : Monotone (powerLimitRatio args) := by
  have hlimit : 0 < args.energyBufferLimitThreshold := args.crit_nonneg.trans_lt args.crit_lt_limit
  intro e e' h
  rcases le_or_gt args.energyBufferLimitThreshold e' with h' | h'
  · rw [powerLimitRatio_of_le h']
    exact (powerLimitRatio_mem args e).2
  · rw [powerLimitRatio_of_lt h', powerLimitRatio_of_lt (h.trans_lt h')]
    gcongr

/-! ### What a call does -/

variable {p : PowerLimiter args} {o : PowerReading}

theorem getPowerLimitRatio_of_not_receiving (h : o.refSerialReceivingData = false) :
    p.getPowerLimitRatio o = (p, 1) := by
  simp [getPowerLimitRatio, h]

theorem getPowerLimitRatio_of_receiving (h : o.refSerialReceivingData = true) :
    p.getPowerLimitRatio o =
      (p.updatePowerAndEnergyBuffer o,
        powerLimitRatio args (p.updatePowerAndEnergyBuffer o).energyBuffer) := by
  simp [getPowerLimitRatio, h]

/-- A call that looks at the estimate answers with the ratio for it. -/
theorem ratio_of_receiving (h : o.refSerialReceivingData = true) :
    (p.getPowerLimitRatio o).2 = powerLimitRatio args (p.getPowerLimitRatio o).1.energyBuffer := by
  rw [getPowerLimitRatio_of_receiving h]

/-- **What a call that receives data leaves behind**: its reading, and an estimate that the report
replaces if it is new and that follows the power balance if not. -/
theorem updatePowerAndEnergyBuffer_spec (p : PowerLimiter args) (o : PowerReading) :
    (p.updatePowerAndEnergyBuffer o).consumedPower = o.chassisPower ∧
      (p.updatePowerAndEnergyBuffer o).prevTime = o.timeAgain ∧
      (p.updatePowerAndEnergyBuffer o).prevRobotDataReceivedTimestamp =
        o.robotDataReceivedTimestamp ∧
      (p.updatePowerAndEnergyBuffer o).energyBuffer =
        if o.robotDataReceivedTimestamp ≠ p.prevRobotDataReceivedTimestamp then
          (o.powerBuffer.toNat : ℚ)
        else p.energyBuffer -
          (p.consumedPower * args.safetyFactor - o.powerConsumptionLimit.toNat) *
            (o.time - p.prevTime).toNat / 1000 := by
  by_cases h : o.robotDataReceivedTimestamp = p.prevRobotDataReceivedTimestamp <;>
    simp [updatePowerAndEnergyBuffer, h]

/-! ### Runs from construction -/

/-- The limiter that makes a call, after some earlier ones. -/
def atCall (args : PowerLimiterArgs) (memory : ℚ) (before : List PowerReading) (o : PowerReading) :
    PowerLimiter args :=
  (construct args memory).after (before ++ [o])

/-- The answer to a call, after some earlier ones. -/
def answer (args : PowerLimiterArgs) (memory : ℚ) (before : List PowerReading) (o : PowerReading) :
    ℚ :=
  (((construct args memory).after before).getPowerLimitRatio o).2

/-- What is expected of the calls of a run, of every one of them: their answers and the estimates
that they leave are those of a limiter that starts with `startingEnergyBuffer`, the answers follow
the estimate, and the estimate follows the power balance. -/
structure Meets (args : PowerLimiterArgs) (memory : ℚ) (calls : List PowerReading) : Prop where
  estimate : ∀ before o rest, calls = before ++ o :: rest →
    (atCall args memory before o).energyBuffer =
      (atCall args args.startingEnergyBuffer before o).energyBuffer
  determined : ∀ before o rest, calls = before ++ o :: rest →
    answer args memory before o = answer args args.startingEnergyBuffer before o
  mem_Icc : ∀ before o rest, calls = before ++ o :: rest →
    answer args memory before o ∈ Set.Icc 0 1
  eq_one : ∀ before o rest, calls = before ++ o :: rest →
    args.energyBufferLimitThreshold ≤ (atCall args memory before o).energyBuffer →
    answer args memory before o = 1
  eq_zero : ∀ before o rest, calls = before ++ o :: rest →
    (atCall args memory before o).energyBuffer ≤ args.energyBufferCritThreshold →
    answer args memory before o = 0
  mono : ∀ before o rest before' o' rest',
    calls = before ++ o :: rest → calls = before' ++ o' :: rest' →
    (atCall args memory before o).energyBuffer ≤ (atCall args memory before' o').energyBuffer →
    answer args memory before o ≤ answer args memory before' o'
  balance : ∀ before o o' rest, calls = before ++ o :: o' :: rest →
    o'.robotDataReceivedTimestamp = o.robotDataReceivedTimestamp →
    (atCall args memory (before ++ [o]) o').energyBuffer -
        (atCall args memory before o).energyBuffer =
      -(o.chassisPower * args.safetyFactor - o'.powerConsumptionLimit.toNat) *
        (o'.time - o.timeAgain).toNat / 1000

theorem atCall_eq (args : PowerLimiterArgs) (memory : ℚ) (before : List PowerReading)
    (o : PowerReading) : atCall args memory before o =
      (((construct args memory).after before).getPowerLimitRatio o).1 := by
  rw [atCall, after_append]
  rfl

theorem answer_of_receiving (args : PowerLimiterArgs) (memory : ℚ) (before : List PowerReading)
    (h : o.refSerialReceivingData = true) :
    answer args memory before o = powerLimitRatio args
      (atCall args memory before o).energyBuffer := by
  rw [answer, ratio_of_receiving h, atCall_eq]

/-- The estimate follows the power balance from one call to the next. -/
theorem balance_getPowerLimitRatio (p : PowerLimiter args) {o o' : PowerReading}
    (ho : o.refSerialReceivingData = true) (ho' : o'.refSerialReceivingData = true)
    (hdata : o'.robotDataReceivedTimestamp = o.robotDataReceivedTimestamp) :
    ((p.getPowerLimitRatio o).1.getPowerLimitRatio o').1.energyBuffer -
        (p.getPowerLimitRatio o).1.energyBuffer =
      -(o.chassisPower * args.safetyFactor - o'.powerConsumptionLimit.toNat) *
        (o'.time - o.timeAgain).toNat / 1000 := by
  obtain ⟨hpower, htime, hstamp, -⟩ := updatePowerAndEnergyBuffer_spec p o
  obtain ⟨-, -, -, henergy⟩ :=
    updatePowerAndEnergyBuffer_spec (p.updatePowerAndEnergyBuffer o) o'
  rw [hpower, htime, hstamp, hdata, if_neg (not_not.2 rfl)] at henergy
  rw [getPowerLimitRatio_of_receiving ho, getPowerLimitRatio_of_receiving ho', henergy]
  ring

/-! ### The start -/

/-- A first report makes up for what was in memory. -/
theorem after_cons_eq_of_report (ho : o.refSerialReceivingData = true)
    (hstamp : o.robotDataReceivedTimestamp ≠ 0) (calls : List PowerReading) (memory memory' : ℚ) :
    (construct args memory).after (o :: calls) = (construct args memory').after (o :: calls) := by
  have hfirst : ∀ memory, ((construct args memory).getPowerLimitRatio o).1 =
      ⟨o.powerBuffer.toNat, o.chassisPower, o.timeAgain, o.robotDataReceivedTimestamp⟩ := by
    intro memory
    rw [getPowerLimitRatio_of_receiving ho]
    simp [updatePowerAndEnergyBuffer, construct, hstamp]
  rw [after_cons, after_cons, hfirst, hfirst]

/-- A first call without a report shows what was in memory. -/
theorem energyBuffer_ne_of_no_report {memory memory' : ℚ}
    (ho : o.refSerialReceivingData = true) (hstamp : o.robotDataReceivedTimestamp = 0)
    (h : (atCall args memory [] o).energyBuffer = (atCall args memory' [] o).energyBuffer) :
    memory = memory' := by
  rw [atCall_eq, atCall_eq, getPowerLimitRatio_of_receiving ho,
    getPowerLimitRatio_of_receiving ho] at h
  simpa [updatePowerAndEnergyBuffer, construct, after, hstamp] using h

/-- A limiter on a line that receives data and with, at each call, the estimate of one that starts
with `startingEnergyBuffer` does what is expected of it. -/
theorem meets_of_atCall {memory : ℚ} {calls : List PowerReading}
    (hline : ∀ o ∈ calls, o.refSerialReceivingData = true)
    (hstart : ∀ before o rest, calls = before ++ o :: rest →
      atCall args memory before o = atCall args args.startingEnergyBuffer before o) :
    Meets args memory calls := by
  have hreceiving : ∀ before o rest, calls = before ++ o :: rest →
      o.refSerialReceivingData = true := by
    rintro before o rest rfl
    exact hline o (by simp)
  have hanswer : ∀ memory before o rest, calls = before ++ o :: rest →
      answer args memory before o =
        powerLimitRatio args (atCall args memory before o).energyBuffer :=
    fun memory before o rest hcalls => answer_of_receiving _ _ _ (hreceiving before o rest hcalls)
  constructor
  case estimate => exact fun before o rest hcalls => by rw [hstart before o rest hcalls]
  case determined =>
    intro before o rest hcalls
    rw [hanswer _ before o rest hcalls, hanswer _ before o rest hcalls,
      hstart before o rest hcalls]
  case mem_Icc =>
    intro before o rest hcalls
    rw [hanswer _ before o rest hcalls]
    exact powerLimitRatio_mem args _
  case eq_one =>
    intro before o rest hcalls hlimit
    rw [hanswer _ before o rest hcalls]
    exact powerLimitRatio_of_le hlimit
  case eq_zero =>
    intro before o rest hcalls hcrit
    rw [hanswer _ before o rest hcalls]
    exact powerLimitRatio_of_le_crit hcrit
  case mono =>
    intro before o rest before' o' rest' hcalls hcalls' hle
    rw [hanswer _ before o rest hcalls, hanswer _ before' o' rest' hcalls']
    exact powerLimitRatio_mono args hle
  case balance =>
    intro before o o' rest hcalls hdata
    have ho := hreceiving before o (o' :: rest) hcalls
    have ho' := hreceiving (before ++ [o]) o' rest (by rw [hcalls, List.append_cons])
    rw [atCall_eq, atCall_eq, after_append]
    exact balance_getPowerLimitRatio _ ho ho' hdata

/-- **When the limiter does what is expected of it** on a line that receives data: its calls leave
the estimates of a limiter that starts with `startingEnergyBuffer` exactly if that is what
`energyBuffer` happened to hold, or the first call (if there is one) finds a report that came after
the start. -/
theorem meets_iff (args : PowerLimiterArgs) (memory : ℚ) (calls : List PowerReading)
    (hline : ∀ o ∈ calls, o.refSerialReceivingData = true) :
    Meets args memory calls ↔
      memory = args.startingEnergyBuffer ∨
        ∀ o ∈ calls.head?, o.robotDataReceivedTimestamp ≠ 0 := by
  cases calls with
  | nil =>
    refine iff_of_true (meets_of_atCall hline fun before o rest h => ?_) (Or.inr (by simp))
    exact absurd h (by simp)
  | cons first calls =>
    have hfirst := hline first List.mem_cons_self
    constructor
    · intro h
      by_contra! hnot
      obtain ⟨hne, o, ho, hstamp⟩ := hnot
      obtain rfl : first = o := by simpa using ho
      exact hne (energyBuffer_ne_of_no_report hfirst hstamp (h.estimate [] first calls rfl))
    · intro h
      refine meets_of_atCall hline fun before o rest hcalls => ?_
      rcases h with rfl | h
      · rfl
      · have hstamp := h first rfl
        rw [atCall, atCall]
        cases before with
        | nil =>
          obtain rfl : first = o := (List.cons.inj hcalls).1
          exact after_cons_eq_of_report hfirst hstamp [] _ _
        | cons b before =>
          obtain rfl : first = b := (List.cons.inj hcalls).1
          exact after_cons_eq_of_report hfirst hstamp (before ++ [o]) _ _

/-- The arguments of the sentry's limiter. -/
def sentryArgs : PowerLimiterArgs where
  startingEnergyBuffer := 60
  energyBufferLimitThreshold := 60
  energyBufferCritThreshold := 15
  safetyFactor := 17 / 20
  crit_nonneg := by norm_num
  crit_lt_limit := by norm_num

/-- The sentry's limiter, from zero memory: its first call finds the first report, its second
none. -/
theorem meets_iff_sentry :
    Meets sentryArgs 0 [⟨true, 0, 0, 60, 100, 5, 1000, 1000⟩,
      ⟨true, 0, 0, 60, 100, 5, 1002, 1002⟩] ↔
      0 = sentryArgs.startingEnergyBuffer ∨
        ∀ o ∈ [(⟨true, 0, 0, 60, 100, 5, 1000, 1000⟩ : PowerReading),
          ⟨true, 0, 0, 60, 100, 5, 1002, 1002⟩].head?, o.robotDataReceivedTimestamp ≠ 0 :=
  meets_iff sentryArgs 0 _ (by decide)

/-- The limiter is a static object, whose memory is zero: before the first report of the robot's
status it takes all power from the chassis, where one that had started with its full buffer would
take none. -/
theorem sentry_starts_empty :
    ¬ Meets sentryArgs 0 [⟨true, 0, 0, 0, 0, 0, 1000, 1000⟩] ∧
      answer sentryArgs 0 [] ⟨true, 0, 0, 0, 0, 0, 1000, 1000⟩ = 0 ∧
      answer sentryArgs sentryArgs.startingEnergyBuffer [] ⟨true, 0, 0, 0, 0, 0, 1000, 1000⟩ =
        1 := by
  have hzero : answer sentryArgs 0 [] ⟨true, 0, 0, 0, 0, 0, 1000, 1000⟩ = 0 := by decide +kernel
  have hone : answer sentryArgs sentryArgs.startingEnergyBuffer []
      ⟨true, 0, 0, 0, 0, 0, 1000, 1000⟩ = 1 := by decide +kernel
  refine ⟨fun h => ?_, hzero, hone⟩
  have hsame := h.determined [] _ [] rfl
  rw [hzero, hone] at hsame
  exact absurd hsame (by norm_num)

end PowerLimiter

end Aimbots.Utils
