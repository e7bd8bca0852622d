import Aimbots.Library.Run
import Aimbots.Tap.Ramp
import Aimbots.Tap.Remote
import Aimbots.Utils.SmoothPid
import Mathlib.Algebra.Order.Ring.Abs

/-!
# `robots/*/*_control_interface.cpp`: the operator's inputs for the chassis

The remote sends a frame every few milliseconds, and the chassis asks for its inputs more often.
Between two frames a stick is taken to move on along the line through the last two, the keys are
added, and a ramp follows the result.

`bounded_run` bounds the inputs and how fast they change, whatever the remote says.  `settled_run`
says that an input gets to what is held and stays there, and `stale_run` what it does when no frame
comes any more: it moves on along the line.
-/

namespace Aimbots.Control

open Tap Utils
open Run (after Each)

/-- `LinearInterpolationPredictor`. -/
structure LinearInterpolationPredictor where
  lastUpdateCallTime : UInt32
  previousValue : ℚ
  slope : ℚ
deriving DecidableEq, Repr

namespace LinearInterpolationPredictor

/-- The constructor. -/
def construct : LinearInterpolationPredictor := ⟨0, 0, 0⟩

/-- `update`. -/
def update (p : LinearInterpolationPredictor) (newValue : ℚ) (currTime : UInt32) :
    LinearInterpolationPredictor :=
  if currTime ≤ p.lastUpdateCallTime then { p with slope := 0 }
  else ⟨currTime, newValue, (newValue - p.previousValue) / (currTime - p.lastUpdateCallTime).toNat⟩

theorem update_of_lt {p : LinearInterpolationPredictor} {currTime : UInt32}
    (h : p.lastUpdateCallTime < currTime) (newValue : ℚ) :
    p.update newValue currTime =
      ⟨currTime, newValue,
        (newValue - p.previousValue) / (currTime - p.lastUpdateCallTime).toNat⟩ :=
  if_neg (UInt32.not_le.2 h)

/-- `getInterpolatedValue`. -/
def getInterpolatedValue (p : LinearInterpolationPredictor) (currTime : UInt32) : ℚ :=
  p.slope * (currTime - p.lastUpdateCallTime).toNat + p.previousValue

end LinearInterpolationPredictor

/-- `Remote::Channel`. -/
inductive Channel where
  | RIGHT_HORIZONTAL | RIGHT_VERTICAL | LEFT_HORIZONTAL | LEFT_VERTICAL | WHEEL
deriving DecidableEq, Repr

/-- `Remote::getChannel`. -/
def getChannel (remote : RemoteInfo) : Channel → ℚ
  | .RIGHT_HORIZONTAL => remote.rightHorizontal / ANALOG_MAX_VALUE
  | .RIGHT_VERTICAL => remote.rightVertical / ANALOG_MAX_VALUE
  | .LEFT_HORIZONTAL => remote.leftHorizontal / ANALOG_MAX_VALUE
  | .LEFT_VERTICAL => remote.leftVertical / ANALOG_MAX_VALUE
  | .WHEEL => remote.wheel / ANALOG_MAX_VALUE

/-- `Remote::keyPressed`. -/
def keyPressed (remote : RemoteInfo) (key : Key) : Bool :=
  decide (remote.key &&& Bitmap.oneHot 16 key.number ≠ 0)

/-- `INPUT_X_INC`. -/
def INPUT_X_INC : ℚ := 3 / 1000

/-- `INPUT_Y_INC`. -/
def INPUT_Y_INC : ℚ := 3 / 1000

/-- `INPUT_XY_STOP_INC`. -/
def INPUT_XY_STOP_INC : ℚ := 3 / 100

/-- `INPUT_R_INC`. -/
def INPUT_R_INC : ℚ := 3 / 1000

/-- `CTRL_SCALAR`. -/
def CTRL_SCALAR : ℚ := 1 / 4

/-- `SHIFT_SCALAR`. -/
def SHIFT_SCALAR : ℚ := 3 / 5

/-- What the functions of the three inputs differ in: the stick, the two keys, whether SHIFT slows
the input down, and the increments of the ramp to a target that is zero and to any other. -/
structure Axis where
  channel : Channel
  positive : Key
  negative : Key
  shifted : Bool
  stopIncrement : ℚ
  increment : ℚ

/-- The inputs of the chassis. -/
inductive ChassisInput where
  | X | Y | ROTATION
deriving DecidableEq, Repr

/-- The values in the function of each input. -/
def ChassisInput.axis : ChassisInput → Axis
  | .X => ⟨.LEFT_HORIZONTAL, .D, .A, true, INPUT_XY_STOP_INC, INPUT_X_INC⟩
  | .Y => ⟨.LEFT_VERTICAL, .W, .S, true, INPUT_XY_STOP_INC, INPUT_Y_INC⟩
  | .ROTATION => ⟨.RIGHT_HORIZONTAL, .Z, .X, false, INPUT_R_INC, INPUT_R_INC⟩

/-- A number for a key. -/
def digit (pressed : Bool) : ℚ := if pressed then 1 else 0

/-- `finalX`, `finalY` and `finalRotation`, from the value of the stick. -/
def final (axis : Axis) (remote : RemoteInfo) (analog : ℚ) : ℚ :=
  let digital := digit (keyPressed remote axis.positive) - digit (keyPressed remote axis.negative)
  let final := limitVal (analog + digital) (-1) 1
  let final := final * (if keyPressed remote .CTRL then CTRL_SCALAR else 1)
  final * (if axis.shifted && keyPressed remote .SHIFT then SHIFT_SCALAR else 1)

/-- The data members for one input. -/
structure AxisInput where
  prevUpdateCounter : UInt32
  lastInputCallTime : UInt32
  input : LinearInterpolationPredictor
  ramp : Ramp
deriving DecidableEq, Repr

/-- A call for an input, with what the remote holds and the time. -/
structure InputCall where
  remote : RemoteInfo
  currTime : UInt32
deriving DecidableEq, Repr

namespace AxisInput

/-- The members as they are constructed. -/
def construct : AxisInput := ⟨0, 0, .construct, .construct 0⟩

/-- The call finds a frame that no call before has found. -/
def News (a : AxisInput) (call : InputCall) : Prop :=
  a.prevUpdateCounter ≠ call.remote.updateCounter

instance (a : AxisInput) (call : InputCall) : Decidable (a.News call) :=
  inferInstanceAs (Decidable (_ ≠ _))

/-- The predictor, as a call leaves it. -/
def predict (axis : Axis) (a : AxisInput) (call : InputCall) : LinearInterpolationPredictor :=
  if a.News call then a.input.update (getChannel call.remote axis.channel) call.currTime
    else a.input

/-- The input that a call sets as the target of the ramp. -/
def wanted (axis : Axis) (a : AxisInput) (call : InputCall) : ℚ :=
  final axis call.remote ((a.predict axis call).getInterpolatedValue call.currTime)

/-- `getChassisXInput`, `getChassisYInput` and `getChassisRotationInput`: the input is the value of
the ramp. -/
def getInput (axis : Axis) (a : AxisInput) (call : InputCall) : AxisInput :=
  let ramp := a.ramp.setTarget (a.wanted axis call)
  { prevUpdateCounter := call.remote.updateCounter
    lastInputCallTime := call.currTime
    input := a.predict axis call
    ramp := ramp.update (if ramp.target = 0 then axis.stopIncrement else axis.increment) }

end AxisInput

/-- The members of `OperatorInterface` for the inputs of the chassis. -/
structure OperatorInterface where
  chassisX : AxisInput
  chassisY : AxisInput
  chassisRotation : AxisInput
deriving DecidableEq, Repr

namespace OperatorInterface

/-- The constructor. -/
def construct : OperatorInterface := ⟨.construct, .construct, .construct⟩

/-- `getChassisXInput`. -/
def getChassisXInput (o : OperatorInterface) (call : InputCall) : OperatorInterface :=
  { o with chassisX := o.chassisX.getInput ChassisInput.X.axis call }

/-- `getChassisYInput`. -/
def getChassisYInput (o : OperatorInterface) (call : InputCall) : OperatorInterface :=
  { o with chassisY := o.chassisY.getInput ChassisInput.Y.axis call }

/-- `getChassisRotationInput`. -/
def getChassisRotationInput (o : OperatorInterface) (call : InputCall) : OperatorInterface :=
  { o with chassisRotation := o.chassisRotation.getInput ChassisInput.ROTATION.axis call }

/-- One call for an input. -/
def step (o : OperatorInterface) : ChassisInput × InputCall → OperatorInterface
  | (.X, call) => o.getChassisXInput call
  | (.Y, call) => o.getChassisYInput call
  | (.ROTATION, call) => o.getChassisRotationInput call

/-- The members for an input. -/
def input (o : OperatorInterface) : ChassisInput → AxisInput
  | .X => o.chassisX
  | .Y => o.chassisY
  | .ROTATION => o.chassisRotation

/-- What a call for an input has returned last. -/
def value (o : OperatorInterface) (which : ChassisInput) : ℚ := (o.input which).ramp.value

end OperatorInterface

/-! ### One call -/

section Call

variable {axis : Axis} {a : AxisInput} {call : InputCall} {remote : RemoteInfo}

/-- The ramp moves by this much at least, and by more when it stops. -/
structure Axis.Ordered (axis : Axis) : Prop where
  pos : 3 / 1000 ≤ axis.increment
  le_stop : axis.increment ≤ axis.stopIncrement

theorem ChassisInput.ordered (which : ChassisInput) : which.axis.Ordered := by
  cases which <;>
    constructor <;>
      norm_num [axis, INPUT_X_INC, INPUT_Y_INC, INPUT_R_INC, INPUT_XY_STOP_INC]

theorem Axis.Ordered.nonneg (h : axis.Ordered) : 0 ≤ axis.increment :=
  le_trans (by norm_num) h.pos

theorem abs_limitVal_le (val : ℚ) : |limitVal val (-1) 1| ≤ 1 := by
  rw [limitVal, if_neg (by norm_num), abs_le]
  split_ifs with hlow hhigh
  · norm_num
  · norm_num
  · exact ⟨not_lt.1 hlow, not_lt.1 hhigh⟩

theorem abs_final_le (axis : Axis) (remote : RemoteInfo) (analog : ℚ) :
    |final axis remote analog| ≤ 1 := by
  have hscale : ∀ (slow : Bool) (scalar : ℚ), |scalar| ≤ 1 →
      |if slow then scalar else (1 : ℚ)| ≤ 1 := by
    intro slow scalar hscalar
    cases slow
    · exact le_of_eq abs_one
    · exact hscalar
  rw [final, abs_mul, abs_mul]
  have hctrl := hscale (keyPressed remote .CTRL) CTRL_SCALAR (by norm_num [CTRL_SCALAR, abs_le])
  have hshift := hscale (axis.shifted && keyPressed remote .SHIFT) SHIFT_SCALAR
    (by norm_num [SHIFT_SCALAR, abs_le])
  have hlimit := mul_le_one₀ (abs_limitVal_le (analog +
    (digit (keyPressed remote axis.positive) - digit (keyPressed remote axis.negative))))
    (abs_nonneg _) hctrl
  exact mul_le_one₀ hlimit (abs_nonneg _) hshift

/-- The target and the value of the ramp are inputs. -/
structure AxisInput.Bounded (a : AxisInput) : Prop where
  target : |a.ramp.target| ≤ 1
  value : |a.ramp.value| ≤ 1

/-- The increment of a call. -/
def AxisInput.increment (axis : Axis) (a : AxisInput) (call : InputCall) : ℚ :=
  if (a.ramp.setTarget (a.wanted axis call)).target = 0 then axis.stopIncrement else axis.increment

theorem AxisInput.increment_mem (h : axis.Ordered) (a : AxisInput) (call : InputCall) :
    axis.increment ≤ a.increment axis call ∧ a.increment axis call ≤ axis.stopIncrement := by
  rw [increment]
  split
  · exact ⟨h.le_stop, le_rfl⟩
  · exact ⟨le_rfl, h.le_stop⟩

theorem AxisInput.getInput_ramp (axis : Axis) (a : AxisInput) (call : InputCall) :
    (a.getInput axis call).ramp =
      (a.ramp.setTarget (a.wanted axis call)).update (a.increment axis call) := by
  rw [getInput, increment]

theorem AxisInput.getInput_input (axis : Axis) (a : AxisInput) (call : InputCall) :
    (a.getInput axis call).input = a.predict axis call := by
  rw [getInput]

theorem AxisInput.Bounded.getInput (h : a.Bounded) (haxis : axis.Ordered) (call : InputCall) :
    (a.getInput axis call).Bounded := by
  have hinc := haxis.nonneg.trans (a.increment_mem haxis call).1
  have htarget : |(a.ramp.setTarget (a.wanted axis call)).target| ≤ 1 := by
    rw [Ramp.setTarget]
    split
    · exact h.target
    · exact abs_final_le axis call.remote _
  constructor
  · rw [getInput_ramp, Ramp.update_target]
    exact htarget
  · rw [getInput_ramp, abs_le]
    refine Ramp.update_mem hinc (abs_le.1 htarget) ?_
    rw [Ramp.setTarget_value]
    exact abs_le.1 h.value

theorem AxisInput.abs_getInput_sub_le (haxis : axis.Ordered) (a : AxisInput) (call : InputCall) :
    |(a.getInput axis call).ramp.value - a.ramp.value| ≤ axis.stopIncrement := by
  have hinc := a.increment_mem haxis call
  have hstep := Ramp.abs_update_sub_le (r := a.ramp.setTarget (a.wanted axis call))
    (haxis.nonneg.trans hinc.1)
  rw [Ramp.setTarget_value] at hstep
  rw [getInput_ramp]
  exact hstep.trans hinc.2

/-- A call that stops goes towards zero, and any other adds the smaller increment. -/
theorem AxisInput.abs_getInput_le (haxis : axis.Ordered) (a : AxisInput) (call : InputCall) :
    |(a.getInput axis call).ramp.value| ≤ |a.ramp.value| + axis.increment := by
  have hinc := haxis.nonneg.trans (a.increment_mem haxis call).1
  rw [getInput_ramp]
  by_cases hstop : (a.ramp.setTarget (a.wanted axis call)).target = 0
  · have hdist := Ramp.abs_target_sub_update (r := a.ramp.setTarget (a.wanted axis call)) hinc
    rw [hstop, zero_sub, zero_sub, abs_neg, abs_neg, Ramp.setTarget_value] at hdist
    rw [hdist]
    exact max_le (add_nonneg (abs_nonneg _) haxis.nonneg) (by linarith [haxis.nonneg])
  · have hstep := Ramp.abs_update_sub_le (r := a.ramp.setTarget (a.wanted axis call)) hinc
    rw [Ramp.setTarget_value] at hstep
    have heq : a.increment axis call = axis.increment := if_neg hstop
    have htri := abs_sub_abs_le_abs_sub
      ((a.ramp.setTarget (a.wanted axis call)).update (a.increment axis call)).value a.ramp.value
    linarith

end Call

/-! ### Runs -/

section Runs

variable {axis : Axis} {a : AxisInput}

theorem AxisInput.bounded_construct : AxisInput.construct.Bounded := by
  constructor
  · exact (abs_zero).trans_le zero_le_one
  · exact (abs_zero).trans_le zero_le_one

theorem AxisInput.Bounded.after (h : a.Bounded) (haxis : axis.Ordered) (calls : List InputCall) :
    (after (AxisInput.getInput axis) a calls).Bounded :=
  Run.inv_after (fun _ call ha => ha.getInput haxis call) h

theorem AxisInput.abs_after_sub_le (haxis : axis.Ordered) (a : AxisInput) (calls : List InputCall) :
    |(after (getInput axis) a calls).ramp.value - a.ramp.value| ≤
      calls.length * axis.stopIncrement := by
  induction calls generalizing a with
  | nil => rw [Run.after_nil, sub_self, abs_zero, List.length_nil, Nat.cast_zero, zero_mul]
  | cons call calls ih =>
    have htri := abs_sub_le (after (getInput axis) (a.getInput axis call) calls).ramp.value
      (a.getInput axis call).ramp.value a.ramp.value
    have hstep := a.abs_getInput_sub_le haxis call
    have hrest := ih (a.getInput axis call)
    rw [Run.after_cons, List.length_cons]
    push_cast
    linarith

theorem AxisInput.abs_after_le (haxis : axis.Ordered) (a : AxisInput) (calls : List InputCall) :
    |(after (getInput axis) a calls).ramp.value| ≤
      |a.ramp.value| + calls.length * axis.increment := by
  induction calls generalizing a with
  | nil => rw [Run.after_nil, List.length_nil, Nat.cast_zero, zero_mul, add_zero]
  | cons call calls ih =>
    have hstep := a.abs_getInput_le haxis call
    have hrest := ih (a.getInput axis call)
    rw [Run.after_cons, List.length_cons]
    push_cast
    linarith

namespace OperatorInterface

/-- The calls for an input. -/
def callsFor (which : ChassisInput) (events : List (ChassisInput × InputCall)) : List InputCall :=
  (events.filter fun e => decide (e.1 = which)).map Prod.snd

theorem callsFor_map (which : ChassisInput) (calls : List InputCall) :
    callsFor which (calls.map fun call => (which, call)) = calls := by
  rw [callsFor, List.filter_map, List.map_map]
  simp [Function.comp_def]

theorem input_step (o : OperatorInterface) (e : ChassisInput × InputCall) (which : ChassisInput) :
    (o.step e).input which =
      if e.1 = which then (o.input which).getInput which.axis e.2 else o.input which := by
  obtain ⟨called, call⟩ := e
  cases called <;> cases which <;> rfl

/-- The calls for the other inputs leave an input alone. -/
theorem input_after (o : OperatorInterface) (events : List (ChassisInput × InputCall))
    (which : ChassisInput) :
    (after step o events).input which =
      after (AxisInput.getInput which.axis) (o.input which) (callsFor which events) := by
  induction events generalizing o with
  | nil => rfl
  | cons e events ih =>
    rw [Run.after_cons, ih, input_step, callsFor, callsFor, List.filter_cons]
    by_cases hwhich : e.1 = which
    · rw [if_pos hwhich, if_pos (decide_eq_true hwhich), List.map_cons, Run.after_cons]
    · rw [if_neg hwhich, if_neg (by simpa using hwhich)]

theorem bounded_reached (which : ChassisInput) (events : List (ChassisInput × InputCall)) :
    ((after step construct events).input which).Bounded := by
  have hstart : (construct.input which).Bounded := by
    cases which <;> exact AxisInput.bounded_construct
  rw [input_after]
  exact hstart.after which.ordered _

/-- **The inputs are bounded, and how fast they change**: whatever the remote says and the clock, an
input is between -1 and 1, each call for it adds the increment of the ramp at most, and takes away
the increment of a stop at most. -/
theorem bounded_run (which : ChassisInput) (events more : List (ChassisInput × InputCall)) :
    |(after step construct events).value which| ≤ 1 ∧
      |(after step construct (events ++ more)).value which| ≤
        |(after step construct events).value which| +
          (callsFor which more).length * which.axis.increment ∧
      |(after step construct (events ++ more)).value which -
        (after step construct events).value which| ≤
          (callsFor which more).length * which.axis.stopIncrement := by
  have hsplit : (after step construct (events ++ more)).input which =
      after (AxisInput.getInput which.axis) ((after step construct events).input which)
        (callsFor which more) := by
    rw [Run.after_append, input_after]
  refine ⟨(bounded_reached which events).value, ?_, ?_⟩
  · rw [value, value, hsplit]
    exact AxisInput.abs_after_le which.ordered _ _
  · rw [value, value, hsplit]
    exact AxisInput.abs_after_sub_le which.ordered _ _

end OperatorInterface

end Runs

/-! ### An input that stays -/

section Stays

variable {axis : Axis} {a : AxisInput} {calls : List InputCall} {target : ℚ}

/-- A call sets this target. -/
def AxisInput.Wants (axis : Axis) (target : ℚ) (a : AxisInput) (call : InputCall) : Prop :=
  a.wanted axis call = target

/-- The ramp's target is the one that is set, but for the tolerance of `setTarget`. -/
def AxisInput.Near (target : ℚ) (a : AxisInput) : Prop := |target - a.ramp.target| ≤ RAMP_EPSILON

theorem AxisInput.near_getInput {call : InputCall} (h : a.Wants axis target call) :
    (a.getInput axis call).Near target := by
  rw [Near, getInput_ramp, Ramp.update_target, ← h]
  exact Ramp.abs_sub_setTarget_le _

theorem AxisInput.getInput_of_near {call : InputCall} (hnear : a.Near target)
    (h : a.Wants axis target call) :
    (a.getInput axis call).ramp = a.ramp.update (a.increment axis call) := by
  rw [getInput_ramp, h, Ramp.setTarget_of_close hnear]

/-- **The ramp gets to a target that stays**: each call takes the increment off the distance. -/
theorem AxisInput.after_of_near (haxis : axis.Ordered) (hnear : a.Near target)
    (hcalls : Each (getInput axis) (Wants axis target) a calls) :
    (after (getInput axis) a calls).ramp.target = a.ramp.target ∧
      |a.ramp.target - (after (getInput axis) a calls).ramp.value| ≤
        max 0 (|a.ramp.target - a.ramp.value| - calls.length * axis.increment) := by
  induction calls generalizing a with
  | nil =>
    refine ⟨rfl, ?_⟩
    rw [List.length_nil, Nat.cast_zero, zero_mul, sub_zero]
    exact le_max_right _ _
  | cons call calls ih =>
    obtain ⟨hcall, hrest⟩ := hcalls
    have hinc := a.increment_mem haxis call
    have hramp := getInput_of_near hnear hcall
    have htarget : (a.getInput axis call).ramp.target = a.ramp.target := by
      rw [hramp, Ramp.update_target]
    have hdist := Ramp.abs_target_sub_update (r := a.ramp) (haxis.nonneg.trans hinc.1)
    rw [← hramp] at hdist
    obtain ⟨hthere, hvalue⟩ := ih (near_getInput hcall) hrest
    rw [htarget] at hthere hvalue
    refine ⟨hthere, hvalue.trans ?_⟩
    rw [hdist, List.length_cons]
    have hlength : (0 : ℚ) ≤ calls.length * axis.increment :=
      mul_nonneg (Nat.cast_nonneg _) haxis.nonneg
    push_cast
    rcases max_cases 0 (|a.ramp.target - a.ramp.value| - a.increment axis call) with
      ⟨heq, -⟩ | ⟨heq, -⟩
    · rw [heq]
      exact max_le (le_max_left _ _) ((by linarith : _ ≤ (0 : ℚ)).trans (le_max_left _ _))
    · rw [heq]
      exact max_le_max le_rfl (by linarith [hinc.1])

/-- Enough calls: from one end to the other in steps of the increment. -/
theorem AxisInput.value_of_near (haxis : axis.Ordered) (hbounded : a.Bounded)
    (hnear : a.Near target) (hcalls : Each (getInput axis) (Wants axis target) a calls)
    (hlength : 667 ≤ calls.length) :
    (after (getInput axis) a calls).ramp.value = a.ramp.target := by
  have hdist := (after_of_near haxis hnear hcalls).2
  have hspan : |a.ramp.target - a.ramp.value| ≤ 2 := by
    have htri := abs_sub a.ramp.target a.ramp.value
    linarith [hbounded.target, hbounded.value]
  have hsteps : (2 : ℚ) ≤ calls.length * axis.increment := by
    have hcast : (667 : ℚ) ≤ calls.length := by exact_mod_cast hlength
    calc (2 : ℚ) ≤ 667 * (3 / 1000) := by norm_num
      _ ≤ calls.length * axis.increment :=
        mul_le_mul hcast haxis.pos (by norm_num) (Nat.cast_nonneg _)
  rw [max_eq_left (by linarith)] at hdist
  exact (sub_eq_zero.1 (abs_eq_zero.1 (le_antisymm hdist (abs_nonneg _)))).symm

/-! ### A stick that is held -/

/-- The call finds the stick and the keys as they are held. -/
structure InputCall.Finds (axis : Axis) (held : RemoteInfo) (call : InputCall) : Prop where
  stick : getChannel call.remote axis.channel = getChannel held axis.channel
  key : call.remote.key = held.key

/-- The predictor holds a value that does not move. -/
structure LinearInterpolationPredictor.Still (value : ℚ) (p : LinearInterpolationPredictor) :
    Prop where
  previousValue : p.previousValue = value
  slope : p.slope = 0

theorem final_congr {remote held : RemoteInfo} (h : remote.key = held.key) (axis : Axis)
    (analog : ℚ) : final axis remote analog = final axis held analog := by
  rw [final, final, keyPressed, keyPressed, keyPressed, keyPressed, h]
  rfl

variable {held : RemoteInfo} {call : InputCall} {value : ℚ}

/-- What an update with the value that is held leaves as the value. -/
theorem LinearInterpolationPredictor.update_previousValue {p : LinearInterpolationPredictor}
    (h : p.previousValue = value) (currTime : UInt32) :
    (p.update value currTime).previousValue = value ∧ (p.update value currTime).slope = 0 := by
  rw [update]
  split
  · exact ⟨h, rfl⟩
  · refine ⟨rfl, ?_⟩
    rw [h, sub_self, zero_div]

theorem LinearInterpolationPredictor.Still.getInterpolatedValue {p : LinearInterpolationPredictor}
    (h : p.Still value) (currTime : UInt32) : p.getInterpolatedValue currTime = value := by
  rw [LinearInterpolationPredictor.getInterpolatedValue, h.slope, zero_mul, zero_add,
    h.previousValue]

theorem AxisInput.predict_previousValue (hcall : call.Finds axis held)
    (h : a.input.previousValue = getChannel held axis.channel) :
    (a.predict axis call).previousValue = getChannel held axis.channel := by
  rw [predict, hcall.stick]
  split
  · exact (LinearInterpolationPredictor.update_previousValue h _).1
  · exact h

theorem AxisInput.still_of_news (hcall : call.Finds axis held) (hnews : a.News call)
    (h : a.input.previousValue = getChannel held axis.channel) :
    (a.predict axis call).Still (getChannel held axis.channel) := by
  rw [predict, if_pos hnews, hcall.stick]
  exact ⟨(LinearInterpolationPredictor.update_previousValue h _).1,
    (LinearInterpolationPredictor.update_previousValue h _).2⟩

theorem AxisInput.still_of_still (hcall : call.Finds axis held)
    (h : a.input.Still (getChannel held axis.channel)) :
    (a.predict axis call).Still (getChannel held axis.channel) := by
  by_cases hnews : a.News call
  · exact still_of_news hcall hnews h.previousValue
  · rw [predict, if_neg hnews]
    exact h

theorem AxisInput.previousValue_after (hcalls : ∀ call ∈ calls, call.Finds axis held)
    (h : a.input.previousValue = getChannel held axis.channel) :
    (after (getInput axis) a calls).input.previousValue = getChannel held axis.channel := by
  induction calls generalizing a with
  | nil => exact h
  | cons call calls ih =>
    rw [List.forall_mem_cons] at hcalls
    exact ih hcalls.2 (predict_previousValue hcalls.1 h)

theorem AxisInput.wants_of_still (hcall : call.Finds axis held)
    (h : (a.predict axis call).Still (getChannel held axis.channel)) :
    a.Wants axis (final axis held (getChannel held axis.channel)) call := by
  rw [Wants, wanted, h.getInterpolatedValue, final_congr hcall.key]

theorem AxisInput.each_wants_of_still (hcalls : ∀ call ∈ calls, call.Finds axis held)
    (h : a.input.Still (getChannel held axis.channel)) :
    Each (getInput axis) (Wants axis (final axis held (getChannel held axis.channel))) a calls := by
  induction calls generalizing a with
  | nil => trivial
  | cons call calls ih =>
    rw [List.forall_mem_cons] at hcalls
    have hstill := still_of_still hcalls.1 h
    exact ⟨wants_of_still hcalls.1 hstill, ih hcalls.2 hstill⟩

/-- Two frames have come with what is held, and then enough calls. -/
theorem AxisInput.settled (haxis : axis.Ordered) (hbounded : a.Bounded) {first second : InputCall}
    {between : List InputCall} (hfirst : first.Finds axis held) (hnews : a.News first)
    (hlater : a.input.lastUpdateCallTime < first.currTime)
    (hbetween : ∀ call ∈ between, call.Finds axis held) (hsecond : second.Finds axis held)
    (hagain : (after (getInput axis) a (first :: between)).News second) :
    ∃ reached, |final axis held (getChannel held axis.channel) - reached| ≤ RAMP_EPSILON ∧
      ∀ rest : List InputCall, (∀ call ∈ rest, call.Finds axis held) → 667 ≤ rest.length →
        (after (getInput axis) a (first :: between ++ second :: rest)).ramp.value = reached := by
  have hvalue : (a.getInput axis first).input.previousValue = getChannel held axis.channel := by
    rw [getInput_input, predict, if_pos hnews, LinearInterpolationPredictor.update_of_lt hlater]
    exact hfirst.stick
  obtain ⟨b, hb⟩ : ∃ b, b = after (getInput axis) a (first :: between) := ⟨_, rfl⟩
  have hstill : (b.predict axis second).Still (getChannel held axis.channel) := by
    rw [hb]
    refine still_of_news hsecond hagain ?_
    rw [Run.after_cons]
    exact previousValue_after hbetween hvalue
  have hnear := near_getInput (wants_of_still hsecond hstill)
  refine ⟨(b.getInput axis second).ramp.target, hnear, fun rest hrest hlength => ?_⟩
  have hreached : (b.getInput axis second).Bounded := by
    rw [hb]
    exact (hbounded.after haxis _).getInput haxis second
  rw [Run.after_append, ← hb, Run.after_cons]
  exact value_of_near haxis hreached hnear (each_wants_of_still hrest hstill) hlength

/-! ### No frame any more -/

/-- The line through the sticks of two calls. -/
def line (channel : Channel) (first second : InputCall) (currTime : UInt32) : ℚ :=
  (getChannel second.remote channel - getChannel first.remote channel) /
    (second.currTime - first.currTime).toNat * (currTime - second.currTime).toNat +
      getChannel second.remote channel

/-- No key is pressed. -/
theorem final_of_key_eq_zero {remote : RemoteInfo} (h : remote.key = 0) (axis : Axis)
    (analog : ℚ) : final axis remote analog = limitVal analog (-1) 1 := by
  have hpressed : ∀ key, keyPressed remote key = false := by
    intro key
    rw [keyPressed, h, decide_eq_false_iff_not, not_not]
    exact BitVec.zero_and
  rw [final, hpressed, hpressed, hpressed, hpressed, sub_self, add_zero, Bool.and_false]
  simp

theorem limitVal_of_one_le {analog direction : ℚ} (hdirection : direction = 1 ∨ direction = -1)
    (h : 1 ≤ direction * analog) : limitVal analog (-1) 1 = direction := by
  rw [limitVal, if_neg (by norm_num)]
  rcases hdirection with rfl | rfl
  · rw [one_mul] at h
    rw [if_neg (by linarith)]
    split_ifs with hhigh
    · rfl
    · exact le_antisymm (not_lt.1 hhigh) h
  · split_ifs with hlow hhigh
    · rfl
    · linarith
    · linarith [not_lt.1 hlow]

/-- A call that brings no frame leaves the predictor alone. -/
theorem AxisInput.input_after_of_silent (axis : Axis)
    (hcalls : ∀ call ∈ calls, call.remote.updateCounter = a.prevUpdateCounter) :
    (after (getInput axis) a calls).input = a.input ∧
      (after (getInput axis) a calls).prevUpdateCounter = a.prevUpdateCounter := by
  induction calls generalizing a with
  | nil => exact ⟨rfl, rfl⟩
  | cons call calls ih =>
    rw [List.forall_mem_cons] at hcalls
    have hinput : (a.getInput axis call).input = a.input := by
      rw [getInput_input]
      exact if_neg (not_not_intro hcalls.1.symm)
    have hcounter : (a.getInput axis call).prevUpdateCounter = a.prevUpdateCounter := hcalls.1
    obtain ⟨hrest, hrestCounter⟩ := ih (a := a.getInput axis call) (hcounter ▸ hcalls.2)
    exact ⟨hrest.trans hinput, hrestCounter.trans hcounter⟩

theorem AxisInput.each_wants_of_silent {direction : ℚ}
    (hcalls : ∀ call ∈ calls, call.remote.updateCounter = a.prevUpdateCounter ∧
      final axis call.remote (a.input.getInterpolatedValue call.currTime) = direction) :
    Each (getInput axis) (Wants axis direction) a calls := by
  induction calls generalizing a with
  | nil => trivial
  | cons call calls ih =>
    rw [List.forall_mem_cons] at hcalls
    have hpredict : a.predict axis call = a.input := if_neg (not_not_intro hcalls.1.1.symm)
    refine ⟨?_, ih ?_⟩
    · rw [Wants, wanted, hpredict]
      exact hcalls.1.2
    · rw [getInput_input, hpredict]
      exact fun other hother => ⟨(hcalls.2 other hother).1.trans hcalls.1.1.symm,
        (hcalls.2 other hother).2⟩

/-- The predictor after two frames. -/
theorem AxisInput.input_two (axis : Axis) {first second : InputCall} {between : List InputCall}
    (hnews : a.News first) (hlater : a.input.lastUpdateCallTime < first.currTime)
    (hbetween : ∀ call ∈ between, call.remote.updateCounter = first.remote.updateCounter)
    (hagain : first.remote.updateCounter ≠ second.remote.updateCounter)
    (hafter : first.currTime < second.currTime) :
    (after (getInput axis) a (first :: between ++ [second])).input =
      ⟨second.currTime, getChannel second.remote axis.channel,
        (getChannel second.remote axis.channel - getChannel first.remote axis.channel) /
          (second.currTime - first.currTime).toNat⟩ := by
  obtain ⟨b, hb⟩ : ∃ b, b = a.getInput axis first := ⟨_, rfl⟩
  have hinput : b.input.lastUpdateCallTime = first.currTime ∧
      b.input.previousValue = getChannel first.remote axis.channel := by
    rw [hb, getInput_input, predict, if_pos hnews, LinearInterpolationPredictor.update_of_lt hlater]
    exact ⟨rfl, rfl⟩
  have hcounter : b.prevUpdateCounter = first.remote.updateCounter := by
    rw [hb, getInput]
  obtain ⟨hsilent, hsilentCounter⟩ := input_after_of_silent (a := b) axis
    (hcounter ▸ hbetween)
  have hsecond : (after (getInput axis) b between).News second := by
    rw [News, hsilentCounter, hcounter]
    exact hagain
  rw [Run.after_append, Run.after_cons (e := first), ← hb, Run.after_cons, Run.after_nil,
    getInput_input, predict, if_pos hsecond, hsilent,
      LinearInterpolationPredictor.update_of_lt (hinput.1 ▸ hafter),
    hinput.1, hinput.2]

/-- Two frames have come, and then enough calls without one. -/
theorem AxisInput.stale (haxis : axis.Ordered) (hbounded : a.Bounded) {first second : InputCall}
    {between rest : List InputCall} {direction : ℚ} (hdirection : direction = 1 ∨ direction = -1)
    (hnews : a.News first) (hlater : a.input.lastUpdateCallTime < first.currTime)
    (hbetween : ∀ call ∈ between, call.remote.updateCounter = first.remote.updateCounter)
    (hagain : first.remote.updateCounter ≠ second.remote.updateCounter)
    (hafter : first.currTime < second.currTime)
    (hrest : ∀ call ∈ rest, call.remote.updateCounter = second.remote.updateCounter ∧
      call.remote.key = 0 ∧ 1 ≤ direction * line axis.channel first second call.currTime)
    (hlength : 668 ≤ rest.length) :
    |direction - (after (getInput axis) a (first :: between ++ second :: rest)).ramp.value| ≤
      RAMP_EPSILON := by
  obtain ⟨b, hb⟩ : ∃ b, b = after (getInput axis) a (first :: between ++ [second]) := ⟨_, rfl⟩
  have hinput := input_two axis hnews hlater hbetween hagain hafter
  rw [← hb] at hinput
  have hcounter : b.prevUpdateCounter = second.remote.updateCounter := by
    rw [hb, Run.after_append, Run.after_cons, Run.after_nil, getInput]
  have hwants : Each (getInput axis) (Wants axis direction) b rest := by
    refine each_wants_of_silent fun call hcall => ?_
    obtain ⟨hsilent, hkey, hline⟩ := hrest call hcall
    refine ⟨hsilent.trans hcounter.symm, ?_⟩
    rw [final_of_key_eq_zero hkey, hinput]
    exact limitVal_of_one_le hdirection hline
  have hsplit : after (getInput axis) a (first :: between ++ second :: rest) =
      after (getInput axis) b rest := by
    rw [hb, ← Run.after_append, List.append_assoc, List.singleton_append]
  rw [hsplit]
  -- The first call sets the target, and the others reach it.
  obtain ⟨call, rest, rfl⟩ := List.exists_cons_of_length_pos (by omega : 0 < rest.length)
  have hnear := near_getInput hwants.1
  have hreached : (b.getInput axis call).Bounded :=
    (hb ▸ hbounded.after haxis _).getInput haxis call
  rw [Run.after_cons, value_of_near haxis hreached hnear hwants.2 (Nat.le_of_succ_le_succ hlength)]
  exact hnear

end Stays

namespace OperatorInterface

/-- A frame with the left stick at a position and no key pressed. -/
def exampleRemote (updateCounter : UInt32) (leftHorizontal : ℤ) : RemoteInfo :=
  { RemoteInfo.zero updateCounter with leftHorizontal := leftHorizontal }

/-- A call that finds such a frame. -/
def exampleCall (updateCounter : UInt32) (leftHorizontal : ℤ) (currTime : UInt32) : InputCall :=
  ⟨exampleRemote updateCounter leftHorizontal, currTime⟩

section Held

variable (which : ChassisInput) (before : List (ChassisInput × InputCall))
  (first second : InputCall) (between : List InputCall)

/-- **What is held is reached**: after two frames with the stick and the keys as they are held, an
input is after 667 calls what they stand for, but for the tolerance of the ramp, and does not change
any more. -/
theorem settled_run (held : RemoteInfo) (hfirst : first.Finds which.axis held)
    (hnews : ((after step construct before).input which).News first)
    (hlater : ((after step construct before).input which).input.lastUpdateCallTime < first.currTime)
    (hbetween : ∀ call ∈ between, call.Finds which.axis held)
    (hsecond : second.Finds which.axis held)
    (hagain : (after (AxisInput.getInput which.axis) ((after step construct before).input which)
      (first :: between)).News second) :
    ∃ reached, |final which.axis held (getChannel held which.axis.channel) - reached| ≤
        RAMP_EPSILON ∧
      ∀ events rest, callsFor which events = first :: between ++ second :: rest →
        (∀ call ∈ rest, call.Finds which.axis held) → 667 ≤ rest.length →
          (after step construct (before ++ events)).value which = reached := by
  obtain ⟨reached, hnear, hreached⟩ := AxisInput.settled which.ordered
    (bounded_reached which before) hfirst hnews hlater hbetween hsecond hagain
  refine ⟨reached, hnear, fun events rest hevents hrest hlength => ?_⟩
  rw [value, Run.after_append, input_after, hevents]
  exact hreached rest hrest hlength

end Held

/-- The stick is held at the right from the first frame on. -/
theorem settled_run_right :
    ∃ reached, |final ChassisInput.X.axis (exampleRemote 0 660)
        (getChannel (exampleRemote 0 660) ChassisInput.X.axis.channel) - reached| ≤
        RAMP_EPSILON ∧
      ∀ events rest, callsFor .X events =
          exampleCall 1 660 17 :: [] ++ exampleCall 2 660 34 :: rest →
        (∀ call ∈ rest, call.Finds ChassisInput.X.axis (exampleRemote 0 660)) →
          667 ≤ rest.length → (after step construct ([] ++ events)).value .X = reached :=
  settled_run .X [] (exampleCall 1 660 17) (exampleCall 2 660 34) [] (exampleRemote 0 660)
    ⟨rfl, rfl⟩ (by decide +kernel) (by decide +kernel) (by simp) ⟨rfl, rfl⟩ (by decide +kernel)

section Silence

variable (which : ChassisInput) (before : List (ChassisInput × InputCall))
  (first second : InputCall) (between : List InputCall)

/-- **Silence of the remote**: with no key pressed and no frame after two of them, an input goes to
the end to which the line through their sticks goes, and not to where the stick was last. -/
theorem stale_run (direction : ℚ) (hdirection : direction = 1 ∨ direction = -1)
    (hnews : ((after step construct before).input which).News first)
    (hlater : ((after step construct before).input which).input.lastUpdateCallTime < first.currTime)
    (hbetween : ∀ call ∈ between, call.remote.updateCounter = first.remote.updateCounter)
    (hagain : first.remote.updateCounter ≠ second.remote.updateCounter)
    (hafter : first.currTime < second.currTime) (events : List (ChassisInput × InputCall))
    (rest : List InputCall) (hevents : callsFor which events = first :: between ++ second :: rest)
    (hrest : ∀ call ∈ rest, call.remote.updateCounter = second.remote.updateCounter ∧
      call.remote.key = 0 ∧
        1 ≤ direction * line which.axis.channel first second call.currTime)
    (hlength : 668 ≤ rest.length) :
    |direction - (after step construct (before ++ events)).value which| ≤ RAMP_EPSILON := by
  rw [value, Run.after_append, input_after, hevents]
  exact AxisInput.stale which.ordered (bounded_reached which before) hdirection hnews
    hlater hbetween
    hagain hafter hrest hlength

end Silence

/-- The stick is on its way to the right, a tenth in 17 milliseconds, when the remote falls silent:
half a second later the input is at the end. -/
theorem stale_run_right :
    |1 - (after step construct ([] ++
      (exampleCall 1 0 17 :: [] ++ exampleCall 2 66 34 ::
        List.replicate 668 (exampleCall 2 66 500)).map fun call =>
          (ChassisInput.X, call))).value .X| ≤ RAMP_EPSILON :=
  stale_run .X [] (exampleCall 1 0 17) (exampleCall 2 66 34) [] 1 (Or.inl rfl)
    (by decide +kernel) (by decide +kernel) (by simp) (by decide) (by decide) _
    (List.replicate 668 (exampleCall 2 66 500)) (callsFor_map .X _)
    (fun call hcall => by
      rw [List.eq_of_mem_replicate hcall]
      exact ⟨rfl, rfl, by decide +kernel⟩)
    (by rw [List.length_replicate])

end OperatorInterface

end Aimbots.Control
