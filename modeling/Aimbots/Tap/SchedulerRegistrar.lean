import Mathlib.Data.List.FinRange
import Mathlib.Logic.Function.Basic
import Mathlib.Order.Basic
import Mathlib.Tactic.SplitIfs

/-!
# `tap/control/command_scheduler.cpp`: the registrars

The commands and the subsystems take an identifier when they are constructed, which is an index into
a global array, and give it back when they are destructed.  The loops of the schedulers go over the
indices below the maximum.  `registered_run`: whatever is constructed and destructed, the
identifiers of what is alive are different indices below the maximum, at which the array holds it.
-/

namespace Aimbots.Tap

/-- `globalCommandRegistrar` and `maxCommandIndex`, or those of the subsystems. -/
structure Registrar (Obj : Type*) where
  objects : Fin 64 → Option Obj
  maxIndex : ℕ

namespace Registrar

variable {Obj : Type*}

/-- The registrar at the start of the program. -/
def empty : Registrar Obj := ⟨fun _ => none, 0⟩

/-- The lowest index without an object. -/
def lowestFree (r : Registrar Obj) : Option (Fin 64) :=
  (List.finRange 64).find? fun i => (r.objects i).isNone

/-- `constructCommand` and `constructSubsystem`: the registrar and the identifier, or the assertion
that fails. -/
def constructObject (tooMany : String) (r : Registrar Obj) (object : Obj) :
    Except String (Registrar Obj × ℤ) :=
  if r.maxIndex < 64 then
    match r.lowestFree with
    | some i =>
      .ok (⟨Function.update r.objects i (some object), max r.maxIndex (i.val + 1)⟩, i.val)
    | none => .ok (r, -1)
  else .error tooMany

/-- `destructCommand` and `destructSubsystem`, of an object with this identifier. -/
def destructObject (invalid : String) (r : Registrar Obj) (identifier : ℤ) :
    Except String (Registrar Obj) :=
  if h : 0 ≤ identifier ∧ identifier < 64 then
    .ok ⟨Function.update r.objects ⟨identifier.toNat, by omega⟩ none,
      if identifier = r.maxIndex - 1 then r.maxIndex - 1 else r.maxIndex⟩
  else .error invalid

/-- `CommandScheduler::constructCommand`. -/
def constructCommand (r : Registrar Obj) (command : Obj) : Except String (Registrar Obj × ℤ) :=
  constructObject "Too many commands constructed!" r command

/-- `CommandScheduler::constructSubsystem`. -/
def constructSubsystem (r : Registrar Obj) (subsystem : Obj) : Except String (Registrar Obj × ℤ) :=
  constructObject "Too many subsystems constructed!" r subsystem

/-- `CommandScheduler::destructCommand`. -/
def destructCommand (r : Registrar Obj) (identifier : ℤ) : Except String (Registrar Obj) :=
  destructObject "Trying to destruct command with invalid identifier" r identifier

/-- `CommandScheduler::destructSubsystem`. -/
def destructSubsystem (r : Registrar Obj) (identifier : ℤ) : Except String (Registrar Obj) :=
  destructObject "Trying to destruct subsystem with invalid identifier" r identifier

/-- The objects are below the maximum, which is not above the length of the array. -/
structure Inv (r : Registrar Obj) : Prop where
  below : ∀ i object, r.objects i = some object → i.val < r.maxIndex
  maxIndex_le : r.maxIndex ≤ 64

variable {r : Registrar Obj} {i : Fin 64}

theorem inv_empty : (empty : Registrar Obj).Inv :=
  ⟨fun _ _ h => absurd h.symm (Option.some_ne_none _), Nat.zero_le _⟩

theorem objects_of_lowestFree (h : r.lowestFree = some i) : r.objects i = none :=
  Option.isNone_iff_eq_none.1 (List.find?_some (p := fun i => (r.objects i).isNone) h)

/-- Below the length of the array, there is a free index. -/
theorem exists_lowestFree (h : r.Inv) (hmax : r.maxIndex < 64) : ∃ i, r.lowestFree = some i := by
  rw [← Option.isSome_iff_exists, lowestFree, List.find?_isSome]
  refine ⟨⟨r.maxIndex, hmax⟩, List.mem_finRange _, ?_⟩
  rw [Option.isNone_iff_eq_none]
  by_contra hsome
  obtain ⟨object, hobject⟩ := Option.ne_none_iff_exists'.1 hsome
  exact Nat.lt_irrefl _ (h.below _ _ hobject)

/-- **Constructing an object**: it takes the lowest index that is free, unless the maximum is the
length of the array. -/
theorem constructObject_eq (text : String) (object : Obj) (h : r.Inv) :
    (r.maxIndex = 64 ∧ constructObject text r object = .error text) ∨
      ∃ i, r.lowestFree = some i ∧ r.objects i = none ∧ constructObject text r object =
        .ok (⟨Function.update r.objects i (some object), max r.maxIndex (i.val + 1)⟩, i.val) := by
  unfold constructObject
  by_cases hmax : r.maxIndex < 64
  · obtain ⟨i, hi⟩ := exists_lowestFree h hmax
    rw [if_pos hmax, hi]
    exact Or.inr ⟨i, rfl, objects_of_lowestFree hi, rfl⟩
  · rw [if_neg hmax]
    exact Or.inl ⟨Nat.le_antisymm h.maxIndex_le (Nat.not_lt.1 hmax), rfl⟩

theorem Inv.construct (h : r.Inv) (i : Fin 64) (object : Obj) :
    Inv ⟨Function.update r.objects i (some object), max r.maxIndex (i.val + 1)⟩ := by
  refine ⟨fun j other hj => ?_, ?_⟩
  · dsimp only at hj ⊢
    by_cases heq : j = i
    · rw [heq]
      omega
    · rw [Function.update_of_ne heq] at hj
      have hbelow := h.below j other hj
      omega
  · have hmax := h.maxIndex_le
    dsimp only
    omega

/-- **Destructing an object** frees its index. -/
theorem Inv.destruct (h : r.Inv) (text : String) (i : Fin 64) :
    ∃ maxIndex, destructObject text r i.val =
        .ok ⟨Function.update r.objects i none, maxIndex⟩ ∧
      Inv ⟨Function.update r.objects i none, maxIndex⟩ := by
  have hlt := i.isLt
  have hrange : (0 : ℤ) ≤ i.val ∧ (i.val : ℤ) < 64 := by omega
  refine ⟨if (i.val : ℤ) = r.maxIndex - 1 then r.maxIndex - 1 else r.maxIndex, ?_, ?_, ?_⟩
  · rw [destructObject, dif_pos hrange]
    rfl
  · intro j other hj
    dsimp only at hj ⊢
    by_cases heq : j = i
    · rw [heq, Function.update_self] at hj
      exact absurd hj.symm (Option.some_ne_none other)
    · rw [Function.update_of_ne heq] at hj
      have hbelow := h.below j other hj
      have hne : j.val ≠ i.val := fun hval => heq (Fin.ext hval)
      split_ifs <;> omega
  · have hmax := h.maxIndex_le
    dsimp only
    split_ifs <;> omega

end Registrar

/-! ### The objects of the program -/

/-- What happens to the objects. -/
inductive ObjectEvent (Obj : Type*) where
  | construct (object : Obj)
  | destruct (object : Obj)

/-- The registrar, and the identifiers of the objects that are alive. -/
structure ObjectLine (Obj : Type*) where
  registrar : Registrar Obj
  globalIdentifier : Obj → Option ℤ

namespace ObjectLine

open Registrar (constructObject destructObject)

variable {Obj : Type*} [DecidableEq Obj]

/-- Nothing has been constructed. -/
def start : ObjectLine Obj := ⟨.empty, fun _ => none⟩

/-- One event: an object is constructed when it is not alive, and destructed when it is.  `none` is
an event that there is not, or a failed assertion. -/
def step (tooMany invalid : String) (line : ObjectLine Obj) :
    ObjectEvent Obj → Option (ObjectLine Obj)
  | .construct object =>
    match line.globalIdentifier object with
    | some _ => none
    | none =>
      (constructObject tooMany line.registrar object).toOption.map fun (registrar, identifier) =>
        ⟨registrar, Function.update line.globalIdentifier object (some identifier)⟩
  | .destruct object =>
    match line.globalIdentifier object with
    | none => none
    | some identifier =>
      (destructObject invalid line.registrar identifier).toOption.map fun registrar =>
        ⟨registrar, Function.update line.globalIdentifier object none⟩

/-- The identifiers are the indices of the objects. -/
structure Inv (line : ObjectLine Obj) : Prop where
  registrar : line.registrar.Inv
  identifier : ∀ object identifier, line.globalIdentifier object = some identifier ↔
    ∃ i : Fin 64, identifier = i.val ∧ line.registrar.objects i = some object

variable {tooMany invalid : String} {line line' : ObjectLine Obj} {event : ObjectEvent Obj}

omit [DecidableEq Obj] in
/-- Different indices hold different objects. -/
theorem Inv.injective (h : line.Inv) {i j : Fin 64} {object : Obj}
    (hi : line.registrar.objects i = some object) (hj : line.registrar.objects j = some object) :
    i = j := by
  have hi' := (h.identifier object i.val).2 ⟨i, rfl, hi⟩
  have hj' := (h.identifier object j.val).2 ⟨j, rfl, hj⟩
  rw [hi'] at hj'
  exact Fin.ext (Int.ofNat.inj (Option.some.inj hj'))

/-- An object that is constructed at a free index. -/
theorem Inv.constructed (h : line.Inv) {i : Fin 64} {object : Obj}
    (hdead : line.globalIdentifier object = none) (hfree : line.registrar.objects i = none) :
    Inv ⟨⟨Function.update line.registrar.objects i (some object),
      max line.registrar.maxIndex (i.val + 1)⟩,
        Function.update line.globalIdentifier object (some i.val)⟩ := by
  refine ⟨h.registrar.construct i object, fun other identifier => ?_⟩
  dsimp only
  by_cases heq : other = object
  · subst heq
    rw [Function.update_self]
    constructor
    · intro hidentifier
      exact ⟨i, (Option.some.inj hidentifier).symm, Function.update_self ..⟩
    · rintro ⟨j, rfl, hj⟩
      by_cases hij : j = i
      · rw [hij]
      · rw [Function.update_of_ne hij] at hj
        have hnone := (h.identifier other j.val).2 ⟨j, rfl, hj⟩
        rw [hdead] at hnone
        exact absurd hnone.symm (Option.some_ne_none _)
  · rw [Function.update_of_ne heq, h.identifier]
    refine exists_congr fun j => and_congr_right fun _ => ?_
    by_cases hij : j = i
    · rw [hij, Function.update_self, hfree]
      exact iff_of_false (fun hnone => Option.some_ne_none other hnone.symm)
        fun hsome => heq (Option.some.inj hsome).symm
    · rw [Function.update_of_ne hij]

/-- An object that is destructed. -/
theorem Inv.destructed (h : line.Inv) {i : Fin 64} {object : Obj} {maxIndex : ℕ}
    (hi : line.registrar.objects i = some object)
    (hinv : Registrar.Inv ⟨Function.update line.registrar.objects i none, maxIndex⟩) :
    Inv ⟨⟨Function.update line.registrar.objects i none, maxIndex⟩,
      Function.update line.globalIdentifier object none⟩ := by
  refine ⟨hinv, fun other identifier => ?_⟩
  dsimp only
  by_cases heq : other = object
  · subst heq
    rw [Function.update_self]
    refine iff_of_false (fun hnone => Option.some_ne_none identifier hnone.symm) ?_
    rintro ⟨j, -, hj⟩
    by_cases hij : j = i
    · rw [hij, Function.update_self] at hj
      exact Option.some_ne_none other hj.symm
    · rw [Function.update_of_ne hij] at hj
      exact hij (h.injective hj hi)
  · rw [Function.update_of_ne heq, h.identifier]
    refine exists_congr fun j => and_congr_right fun _ => ?_
    by_cases hij : j = i
    · rw [hij, Function.update_self, hi]
      exact iff_of_false (fun hsome => heq (Option.some.inj hsome).symm)
        fun hnone => Option.some_ne_none other hnone.symm
    · rw [Function.update_of_ne hij]

/-- **One event** keeps the identifiers apart. -/
theorem Inv.step (h : line.Inv) (hstep : line.step tooMany invalid event = some line') :
    line'.Inv := by
  cases event with
  | construct object =>
    rw [ObjectLine.step] at hstep
    cases hdead : line.globalIdentifier object with
    | some identifier =>
      rw [hdead] at hstep
      exact absurd hstep.symm (Option.some_ne_none line')
    | none =>
      rw [hdead] at hstep
      dsimp only at hstep
      rcases Registrar.constructObject_eq tooMany object h.registrar with
        ⟨-, herror⟩ | ⟨i, -, hfree, hok⟩
      · rw [herror] at hstep
        exact absurd hstep.symm (Option.some_ne_none line')
      · rw [hok] at hstep
        obtain rfl := Option.some.inj hstep
        exact h.constructed hdead hfree
  | destruct object =>
    rw [ObjectLine.step] at hstep
    cases halive : line.globalIdentifier object with
    | none =>
      rw [halive] at hstep
      exact absurd hstep.symm (Option.some_ne_none line')
    | some identifier =>
      obtain ⟨i, rfl, hi⟩ := (h.identifier object identifier).1 halive
      obtain ⟨maxIndex, hok, hinv⟩ := h.registrar.destruct invalid i
      rw [halive] at hstep
      dsimp only at hstep
      rw [hok] at hstep
      obtain rfl := Option.some.inj hstep
      exact h.destructed hi hinv

omit [DecidableEq Obj] in
theorem inv_start : (start : ObjectLine Obj).Inv := by
  refine ⟨Registrar.inv_empty, fun object identifier => ?_⟩
  exact iff_of_false (fun h => Option.some_ne_none identifier h.symm)
    fun ⟨_, _, h⟩ => Option.some_ne_none object h.symm

theorem Inv.run {events : List (ObjectEvent Obj)} (h : line.Inv)
    (hrun : events.foldlM (ObjectLine.step tooMany invalid) line = some line') : line'.Inv := by
  induction events generalizing line with
  | nil =>
    obtain rfl := Option.some.inj hrun
    exact h
  | cons event events ih =>
    rw [List.foldlM_cons] at hrun
    obtain ⟨next, hnext, hrest⟩ := Option.bind_eq_some_iff.1 hrun
    exact ih (h.step hnext) hrest

/-- **The identifiers of a program**: in any run without a failed assertion, what is alive has an
index below the maximum as its identifier, the array holds it there and nothing else anywhere, and
no two objects have one identifier. -/
theorem registered_run (tooMany invalid : String) (events : List (ObjectEvent Obj))
    (line : ObjectLine Obj) (hrun : events.foldlM (step tooMany invalid) start = some line) :
    (∀ object identifier, line.globalIdentifier object = some identifier →
      ∃ i : Fin 64, identifier = i.val ∧ i.val < line.registrar.maxIndex ∧
        line.registrar.objects i = some object) ∧
      (∀ i object, line.registrar.objects i = some object →
        line.globalIdentifier object = some (i.val : ℤ)) ∧
      ∀ object other identifier, line.globalIdentifier object = some identifier →
        line.globalIdentifier other = some identifier → object = other := by
  have h := inv_start.run hrun
  refine ⟨fun object identifier hidentifier => ?_, fun i object hi => ?_,
    fun object other identifier hobject hother => ?_⟩
  · obtain ⟨i, rfl, hi⟩ := (h.identifier object identifier).1 hidentifier
    exact ⟨i, rfl, h.registrar.below i object hi, hi⟩
  · exact (h.identifier object i.val).2 ⟨i, rfl, hi⟩
  · obtain ⟨i, rfl, hi⟩ := (h.identifier object identifier).1 hobject
    obtain ⟨j, heq, hj⟩ := (h.identifier other i.val).1 hother
    rw [Fin.ext (Int.ofNat.inj heq), hj] at hi
    exact (Option.some.inj hi).symm

/-- Three commands, the first of which gives its identifier to a fourth. -/
def fourCommands : List (ObjectEvent ℕ) :=
  [.construct 0, .construct 1, .construct 2, .destruct 0, .construct 3]

/-- The commands after these events. -/
def fourConstructed : ObjectLine ℕ :=
  (fourCommands.foldlM (step "Too many commands constructed!"
    "Trying to destruct command with invalid identifier") start).get (by decide +kernel)

theorem registered_run_four :
    (∀ object identifier, fourConstructed.globalIdentifier object = some identifier →
      ∃ i : Fin 64, identifier = i.val ∧ i.val < fourConstructed.registrar.maxIndex ∧
        fourConstructed.registrar.objects i = some object) ∧
      (∀ i object, fourConstructed.registrar.objects i = some object →
        fourConstructed.globalIdentifier object = some (i.val : ℤ)) ∧
      ∀ object other identifier, fourConstructed.globalIdentifier object = some identifier →
        fourConstructed.globalIdentifier other = some identifier → object = other :=
  registered_run "Too many commands constructed!"
    "Trying to destruct command with invalid identifier" fourCommands fourConstructed
    (Option.some_get _).symm

end ObjectLine

end Aimbots.Tap
