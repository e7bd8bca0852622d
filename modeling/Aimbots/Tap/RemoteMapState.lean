import Aimbots.Library.Bitmap

/-!
# `tap/control/remote_map_state.cpp`: what a mapping asks of the remote

A `RemoteMapState` names positions of the switches, keys that must be down, keys that must not all
be down, and mouse buttons.  It is both what a mapping asks for and what the remote shows.  The keys
and the negation keys of a map state are disjoint (`disjoint`): `initKeys` and `initNegKeys` refuse
what would break this.  `asks_ofAll_iff` says which map states that are constructed ask for anything
at all, and `stateSubsetOf_iff` when what the remote shows is enough.
-/

namespace Aimbots.Tap

open Bitmap

/-- `Remote::SwitchState`. -/
inductive SwitchState where
  | UNKNOWN | UP | DOWN | MID
deriving DecidableEq, Repr

/-- `Remote::Switch`. -/
inductive Switch where
  | LEFT_SWITCH | RIGHT_SWITCH
deriving DecidableEq, Repr

/-- `Remote::Key`. -/
inductive Key where
  | W | S | A | D | SHIFT | CTRL | Q | E | R | F | G | Z | X | C | V | B
deriving DecidableEq, Repr

/-- `RemoteMapState::MouseButton`. -/
inductive MouseButton where
  | LEFT | RIGHT
deriving DecidableEq, Repr

/-- The number of a key, which is the bit of the key. -/
def Key.number : Key → ℕ
  | .W => 0 | .S => 1 | .A => 2 | .D => 3 | .SHIFT => 4 | .CTRL => 5 | .Q => 6 | .E => 7
  | .R => 8 | .F => 9 | .G => 10 | .Z => 11 | .X => 12 | .C => 13 | .V => 14 | .B => 15

/-- The set of keys of a list, as a word. -/
def keyBits (keySet : List Key) : BitVec 16 :=
  keySet.foldl (fun acc key => acc ||| oneHot 16 key.number) 0

/-- `RemoteMapState`. -/
structure RemoteMapState where
  lSwitch : SwitchState
  rSwitch : SwitchState
  keys : BitVec 16
  negKeys : BitVec 16
  lMouseButton : Bool
  rMouseButton : Bool
  disjoint : negKeys &&& keys = 0
deriving DecidableEq, Repr

namespace RemoteMapState

/-- The default constructor. -/
def empty : RemoteMapState := ⟨.UNKNOWN, .UNKNOWN, 0, 0, false, false, rfl⟩

section Initialization

variable (s : RemoteMapState)

/-- `initLSwitch`. -/
def initLSwitch (ss : SwitchState) : RemoteMapState :=
  if ss = .UNKNOWN then s else { s with lSwitch := ss }

/-- `initRSwitch`. -/
def initRSwitch (ss : SwitchState) : RemoteMapState :=
  if ss = .UNKNOWN then s else { s with rSwitch := ss }

/-- `initKeys`. -/
def initKeys (keys : BitVec 16) : RemoteMapState :=
  if keys = 0 then s
  else if h : s.negKeys &&& keys = 0 then { s with keys := keys, disjoint := h }
  else s

/-- `initNegKeys`. -/
def initNegKeys (negKeys : BitVec 16) : RemoteMapState :=
  if negKeys = 0 then s
  else if h : s.keys &&& negKeys = 0 then
    { s with negKeys := negKeys, disjoint := and_comm_eq_zero h }
  else s

/-- `initLMouseButton`. -/
def initLMouseButton : RemoteMapState := { s with lMouseButton := true }

/-- `initRMouseButton`. -/
def initRMouseButton : RemoteMapState := { s with rMouseButton := true }

/-- `initKeys` of a list. -/
def initKeySet (keySet : List Key) : RemoteMapState := s.initKeys (keyBits keySet)

/-- `initNegKeys` of a list. -/
def initNegKeySet (negKeySet : List Key) : RemoteMapState := s.initNegKeys (keyBits negKeySet)

/-- The switch is to be in a position. -/
def initSwitch (swh : Switch) (switchState : SwitchState) : RemoteMapState :=
  if swh = .LEFT_SWITCH then s.initLSwitch switchState else s.initRSwitch switchState

/-- The mouse button is to be down. -/
def initMouseButton (button : MouseButton) : RemoteMapState :=
  if button = .LEFT then s.initLMouseButton else s.initRMouseButton

end Initialization

/-! ### The constructors -/

/-- `RemoteMapState(leftss, rightss, keySet, negKeySet, mouseButtonLeftPressed, …)`. -/
def ofAll (leftss rightss : SwitchState) (keySet negKeySet : List Key)
    (mouseButtonLeftPressed mouseButtonRightPressed : Bool) : RemoteMapState :=
  let s :=
    (((empty.initLSwitch leftss).initRSwitch rightss).initKeySet keySet).initNegKeySet negKeySet
  let s := if mouseButtonLeftPressed then s.initLMouseButton else s
  if mouseButtonRightPressed then s.initRMouseButton else s

/-- `RemoteMapState(swh, switchState)`. -/
def ofSwitch (swh : Switch) (switchState : SwitchState) : RemoteMapState :=
  empty.initSwitch swh switchState

/-- `RemoteMapState(leftss, rightss)`. -/
def ofSwitches (leftss rightss : SwitchState) : RemoteMapState :=
  (empty.initLSwitch leftss).initRSwitch rightss

/-- `RemoteMapState(keySet, negKeySet)`. -/
def ofKeys (keySet negKeySet : List Key) : RemoteMapState :=
  (empty.initKeySet keySet).initNegKeySet negKeySet

/-- `RemoteMapState(button, keySet, negKeySet)`. -/
def ofMouseButtonKeys (button : MouseButton) (keySet negKeySet : List Key) : RemoteMapState :=
  ((empty.initMouseButton button).initKeySet keySet).initNegKeySet negKeySet

/-- `RemoteMapState(button)`. -/
def ofMouseButton (button : MouseButton) : RemoteMapState := empty.initMouseButton button

/-! ### What the remote shows -/

/-- `stateSubsetOf`. -/
def stateSubsetOf (s other : RemoteMapState) : Bool :=
  if s.rSwitch ≠ .UNKNOWN ∧ s.rSwitch ≠ other.rSwitch then false
  else if s.lSwitch ≠ .UNKNOWN ∧ s.lSwitch ≠ other.lSwitch then false
  else if s.keys &&& other.keys ≠ s.keys then false
  else if s.lMouseButton = true ∧ other.lMouseButton ≠ s.lMouseButton then false
  else if s.rMouseButton = true ∧ other.rMouseButton ≠ s.rMouseButton then false
  else true

/-- `getNegKeysUsed`. -/
def getNegKeysUsed (s : RemoteMapState) : Bool := decide (s.negKeys ≠ 0)

/-- `CommandMapping::negKeysSubset`. -/
def negKeysSubset (state1 state2 : RemoteMapState) : Bool :=
  decide (state1.negKeys = state1.negKeys &&& state2.keys)

/-- The remote shows what the map state asks for, and not all its negation keys. -/
def active (s currState : RemoteMapState) : Bool :=
  s.stateSubsetOf currState && !(s.getNegKeysUsed && negKeysSubset s currState)

/-- **When the remote shows enough**: each switch that matters is where it should be, the keys are
down, and so are the mouse buttons that matter. -/
theorem stateSubsetOf_iff (s other : RemoteMapState) : s.stateSubsetOf other = true ↔
    (s.rSwitch ≠ .UNKNOWN → s.rSwitch = other.rSwitch) ∧
      (s.lSwitch ≠ .UNKNOWN → s.lSwitch = other.lSwitch) ∧
      (∀ i, Mem i s.keys → Mem i other.keys) ∧
      (s.lMouseButton = true → other.lMouseButton = true) ∧
      (s.rMouseButton = true → other.rMouseButton = true) := by
  rw [stateSubsetOf, ← and_eq_left_iff]
  split_ifs with hr hl hk hml hmr
  · exact iff_of_false id fun h => hr.2 (h.1 hr.1)
  · exact iff_of_false id fun h => hl.2 (h.2.1 hl.1)
  · exact iff_of_false id fun h => hk h.2.2.1
  · exact iff_of_false id fun h =>
      hml.2 ((h.2.2.2.1 hml.1).trans hml.1.symm)
  · exact iff_of_false id fun h =>
      hmr.2 ((h.2.2.2.2 hmr.1).trans hmr.1.symm)
  · refine iff_of_true rfl ⟨fun h => ?_, fun h => ?_, not_not.1 hk, fun h => ?_, fun h => ?_⟩
    · exact not_not.1 fun hne => hr ⟨h, hne⟩
    · exact not_not.1 fun hne => hl ⟨h, hne⟩
    · exact (not_not.1 fun hne => hml ⟨h, hne⟩ : other.lMouseButton = s.lMouseButton).trans h
    · exact (not_not.1 fun hne => hmr ⟨h, hne⟩ : other.rMouseButton = s.rMouseButton).trans h

/-- The map state asks for a position of a switch, for a key or for a mouse button. -/
def Asks (s : RemoteMapState) : Prop :=
  s.lSwitch ≠ .UNKNOWN ∨ s.rSwitch ≠ .UNKNOWN ∨ s.keys ≠ 0 ∨ s.lMouseButton = true ∨
    s.rMouseButton = true

instance (s : RemoteMapState) : Decidable s.Asks := inferInstanceAs (Decidable (_ ∨ _))

/-- The bits of a list of keys. -/
theorem mem_keyBits {keySet : List Key} {i : ℕ} :
    Mem i (keyBits keySet) ↔ ∃ key ∈ keySet, key.number = i := by
  have hloop : ∀ (keySet : List Key) (bits : BitVec 16),
      Mem i (keySet.foldl (fun acc key => acc ||| oneHot 16 key.number) bits) ↔
        Mem i bits ∨ ∃ key ∈ keySet, key.number = i := by
    intro keySet
    induction keySet with
    | nil => simp
    | cons key keySet ih =>
      intro bits
      have hkey : key.number < 16 := by cases key <;> decide
      rw [List.foldl_cons, ih, mem_insert hkey]
      simp only [List.mem_cons, exists_eq_or_imp, eq_comm (a := i)]
      tauto
  rw [keyBits, hloop, or_iff_right not_mem_zero]

theorem keyBits_eq_zero_iff {keySet : List Key} : keyBits keySet = 0 ↔ keySet = [] := by
  simp only [eq_zero_iff, mem_keyBits]
  constructor
  · exact fun h => List.eq_nil_iff_forall_not_mem.2 fun key hkey => h key.number ⟨key, hkey, rfl⟩
  · rintro rfl i ⟨key, hkey, -⟩
    exact List.not_mem_nil hkey

section Asks

variable {s : RemoteMapState} {ss : SwitchState} {keys : BitVec 16}

theorem asks_initLSwitch : (s.initLSwitch ss).Asks ↔ ss ≠ .UNKNOWN ∨ s.Asks := by
  rw [initLSwitch]
  split_ifs with hss
  · exact (or_iff_right (not_not.2 hss)).symm
  · exact iff_of_true (Or.inl hss) (Or.inl hss)

theorem asks_initRSwitch : (s.initRSwitch ss).Asks ↔ ss ≠ .UNKNOWN ∨ s.Asks := by
  rw [initRSwitch]
  split_ifs with hss
  · exact (or_iff_right (not_not.2 hss)).symm
  · exact iff_of_true (Or.inr (Or.inl hss)) (Or.inl hss)

theorem asks_initKeys (h : s.negKeys = 0) : (s.initKeys keys).Asks ↔ keys ≠ 0 ∨ s.Asks := by
  rw [initKeys]
  split_ifs with hkeys hdisjoint
  · exact (or_iff_right (not_not.2 hkeys)).symm
  · exact iff_of_true (Or.inr (Or.inr (Or.inl hkeys))) (Or.inl hkeys)
  · rw [h] at hdisjoint
    exact absurd (BitVec.zero_and) hdisjoint

/-- Negation keys are not asked for. -/
theorem asks_initNegKeys : (s.initNegKeys keys).Asks ↔ s.Asks := by
  rw [initNegKeys]
  split_ifs <;> exact Iff.rfl

theorem asks_initMouseButton (button : MouseButton) : (s.initMouseButton button).Asks := by
  cases button
  · exact Or.inr (Or.inr (Or.inr (Or.inl rfl)))
  · exact Or.inr (Or.inr (Or.inr (Or.inr rfl)))

end Asks

/-- The two ways to name a position of a switch are one. -/
theorem ofSwitch_eq (swh : Switch) (switchState : SwitchState) :
    ofSwitch swh switchState =
      ofSwitches (if swh = .LEFT_SWITCH then switchState else .UNKNOWN)
        (if swh = .LEFT_SWITCH then .UNKNOWN else switchState) := by
  cases swh <;> rfl

theorem asks_ofSwitches_iff (leftss rightss : SwitchState) :
    (ofSwitches leftss rightss).Asks ↔ leftss ≠ .UNKNOWN ∨ rightss ≠ .UNKNOWN := by
  have hempty : ¬ empty.Asks := by decide
  rw [ofSwitches, asks_initRSwitch, asks_initLSwitch, or_iff_left hempty, or_comm]

/-- **What a map state asks for that is constructed**: its negation keys are nothing. -/
theorem asks_ofAll_iff (leftss rightss : SwitchState) (keySet negKeySet : List Key)
    (mouseButtonLeftPressed mouseButtonRightPressed : Bool) :
    (ofAll leftss rightss keySet negKeySet mouseButtonLeftPressed mouseButtonRightPressed).Asks ↔
      leftss ≠ .UNKNOWN ∨ rightss ≠ .UNKNOWN ∨ keySet ≠ [] ∨ mouseButtonLeftPressed = true ∨
        mouseButtonRightPressed = true := by
  have hneg : (ofSwitches leftss rightss).negKeys = 0 := by
    rw [ofSwitches, initRSwitch, initLSwitch]
    split_ifs <;> rfl
  have hswitches : (((ofSwitches leftss rightss).initKeySet keySet).initNegKeySet negKeySet).Asks ↔
      keySet ≠ [] ∨ leftss ≠ .UNKNOWN ∨ rightss ≠ .UNKNOWN := by
    rw [initNegKeySet, asks_initNegKeys, initKeySet, asks_initKeys hneg, asks_ofSwitches_iff, Ne,
      keyBits_eq_zero_iff]
  cases mouseButtonRightPressed with
  | true => exact iff_of_true (asks_initMouseButton .RIGHT) (by simp)
  | false =>
    cases mouseButtonLeftPressed with
    | true => exact iff_of_true (asks_initMouseButton .LEFT) (by simp)
    | false =>
      refine hswitches.trans ?_
      simp only [Bool.false_eq_true, or_false]
      tauto

/-- A state of keys alone asks for something as soon as one key is to be held. -/
theorem asks_ofKeys_iff (keySet negKeySet : List Key) :
    (ofKeys keySet negKeySet).Asks ↔ keySet ≠ [] := by
  refine (asks_ofAll_iff .UNKNOWN .UNKNOWN keySet negKeySet false false).trans ?_
  simp

theorem asks_ofMouseButtonKeys (button : MouseButton) (keySet negKeySet : List Key) :
    (ofMouseButtonKeys button keySet negKeySet).Asks := by
  have hneg : (empty.initMouseButton button).negKeys = 0 := by
    cases button <;> rfl
  rw [ofMouseButtonKeys, initNegKeySet, asks_initNegKeys, initKeySet, asks_initKeys hneg]
  exact Or.inr (asks_initMouseButton button)

theorem asks_ofMouseButton (button : MouseButton) : (ofMouseButton button).Asks :=
  asks_initMouseButton button

/-- **A map state that asks for something** is not shown by a remote with nothing down. -/
theorem Asks.not_active {s other : RemoteMapState} (h : s.Asks) (hr : other.rSwitch = .UNKNOWN)
    (hl : other.lSwitch = .UNKNOWN) (hk : other.keys = 0) (hml : other.lMouseButton = false)
    (hmr : other.rMouseButton = false) : s.active other = false := by
  rw [active, Bool.and_eq_false_iff]
  left
  rw [← Bool.not_eq_true, stateSubsetOf_iff]
  rintro ⟨h1, h2, h3, h4, h5⟩
  rcases h with h | h | h | h | h
  · exact h ((h2 h).trans hl)
  · exact h ((h1 h).trans hr)
  · exact h (eq_zero_iff.2 fun i hi => not_mem_zero (hk ▸ h3 i hi))
  · exact Bool.false_ne_true (hml.symm.trans (h4 h))
  · exact Bool.false_ne_true (hmr.symm.trans (h5 h))

end RemoteMapState

end Aimbots.Tap
