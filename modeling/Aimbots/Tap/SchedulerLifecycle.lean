import Aimbots.Tap.BitmapScheduler

/-!
# The commands of the scheduler, from their beginning to their end

Whatever the robot answers and does with the scheduler, every command is initialized, executed any
number of times and ended, in turn, and no two commands that are under way share a subsystem
(`inv_run`).  The bitmaps say at any time which commands are under way and which subsystems they
require.
-/

namespace Aimbots.Tap.BitmapScheduler

open Bitmap
open Run (after Each)

variable {nc ns : ℕ}

/-- The commands that are under way after a call. -/
def underWay (running : Fin nc → Bool) : Call nc ns → Fin nc → Bool
  | .initializeCommand command => Function.update running command true
  | .endCommand command _ => Function.update running command false
  | _ => running

/-- The call is in its place: a command is initialized when neither it nor one that shares a
subsystem with it is under way, and it is executed and ended when it is under way. -/
def InPlace (table : SchedulerTable nc ns) (running : Fin nc → Bool) : Call nc ns → Prop
  | .initializeCommand command => running command = false ∧ ∀ other, running other = true →
      table.getRequirementsBitwise other &&& table.getRequirementsBitwise command = 0
  | .execute command => running command = true
  | .endCommand command _ => running command = true
  | _ => True

/-- The commands that are under way. -/
def running (s : BitmapScheduler nc ns) : Fin nc → Bool := after underWay (fun _ => false) s.calls

/-- The invariant of the scheduler. -/
structure Inv (table : SchedulerTable nc ns) (s : BitmapScheduler nc ns) : Prop where
  /-- every call so far was in its place -/
  calls : Each underWay (InPlace table) (fun _ => false) s.calls
  /-- the commands that are scheduled are those under way -/
  running : ∀ command, s.running command = true ↔ Mem command s.addedCommandBitmap
  known : ∀ i, Mem i s.addedCommandBitmap → i < nc
  /-- the subsystems that have a command are those that the scheduled commands require -/
  associated : ∀ j, Mem j s.subsystemsAssociatedWithCommandBitmap ↔
    ∃ command : Fin nc, Mem command s.addedCommandBitmap ∧
      Mem j (table.getRequirementsBitwise command)
  /-- scheduled commands share no subsystem -/
  disjoint : ∀ command other : Fin nc, Mem command s.addedCommandBitmap →
    Mem other s.addedCommandBitmap → command ≠ other →
      table.getRequirementsBitwise command &&& table.getRequirementsBitwise other = 0
  /-- scheduled commands require subsystems, and these are registered -/
  required : ∀ command : Fin nc, Mem command s.addedCommandBitmap →
    table.getRequirementsBitwise command ≠ 0 ∧
      table.getRequirementsBitwise command &&& s.registeredSubsystemBitmap =
        table.getRequirementsBitwise command
  /-- nothing is scheduled while the hardware tests run -/
  tests : s.runningHardwareTests = true → s.addedCommandBitmap = 0

/-- The call is about no command. -/
def Neutral : Call nc ns → Prop
  | .initializeCommand _ | .execute _ | .endCommand _ _ => False
  | _ => True

variable {table : SchedulerTable nc ns} {robot : ℕ → Question nc ns → Bool}
  {s : BitmapScheduler nc ns} {command other : Fin nc} {k : Call nc ns} {interrupted : Bool}

theorem running_call : (s.call k).running = underWay s.running k := by
  rw [running, call, Run.after_append]
  rfl

theorem each_call : Each underWay (InPlace table) (fun _ => false) (s.call k).calls ↔
    Each underWay (InPlace table) (fun _ => false) s.calls ∧ InPlace table s.running k := by
  rw [call, Run.each_append, Run.each_cons, and_iff_left (Run.each_nil)]
  rfl

theorem Neutral.underWay_eq (h : Neutral k) (running : Fin nc → Bool) :
    underWay running k = running := by
  cases k <;> first | rfl | exact h.elim

theorem Neutral.inPlace (h : Neutral k) (running : Fin nc → Bool) : InPlace table running k := by
  cases k <;> trivial

theorem inv_construct (isMasterScheduler : Bool) : Inv table (construct isMasterScheduler) where
  calls := trivial
  running _ := iff_of_false Bool.false_ne_true not_mem_zero
  known _ h := absurd h not_mem_zero
  associated _ := iff_of_false not_mem_zero fun ⟨_, h, _⟩ => not_mem_zero h
  disjoint _ _ h := absurd h not_mem_zero
  required _ h := absurd h not_mem_zero
  tests _ := rfl

theorem Inv.next (h : Inv table s) : Inv table s.next :=
  ⟨h.calls, h.running, h.known, h.associated, h.disjoint, h.required, h.tests⟩

theorem Inv.neutral (h : Inv table s) (hk : Neutral k) : Inv table (s.call k) where
  calls := each_call.2 ⟨h.calls, hk.inPlace _⟩
  running c := by
    rw [running_call, hk.underWay_eq]
    exact h.running c
  known := h.known
  associated := h.associated
  disjoint := h.disjoint
  required := h.required
  tests := h.tests

theorem Inv.execute (h : Inv table s) (hscheduled : Mem command s.addedCommandBitmap) :
    Inv table (s.call (.execute command)) where
  calls := each_call.2 ⟨h.calls, (h.running command).2 hscheduled⟩
  running c := by
    rw [running_call]
    exact h.running c
  known := h.known
  associated := h.associated
  disjoint := h.disjoint
  required := h.required
  tests := h.tests

theorem isCommandScheduled_iff (table : SchedulerTable nc ns) :
    s.isCommandScheduled command = true ↔ Mem command s.addedCommandBitmap := by
  rw [isCommandScheduled, decide_eq_true_iff, and_oneHot_ne_zero_iff (table.command_lt command)]

/-! ### Removing a command -/

@[simp] theorem registered_removeCommand {command : Option (Fin nc)} :
    (s.removeCommand table interrupted command).registeredSubsystemBitmap =
      s.registeredSubsystemBitmap := by
  cases command with
  | none => rfl
  | some command =>
    rw [removeCommand]
    split_ifs <;> rfl

@[simp] theorem runningHardwareTests_removeCommand {command : Option (Fin nc)} :
    (s.removeCommand table interrupted command).runningHardwareTests = s.runningHardwareTests := by
  cases command with
  | none => rfl
  | some command =>
    rw [removeCommand]
    split_ifs <;> rfl

/-- A command that is not scheduled is left alone. -/
theorem removeCommand_of_not_mem (h : ¬ Mem command s.addedCommandBitmap) :
    s.removeCommand table interrupted (some command) = s := by
  have hnot : s.isCommandScheduled command = false := by
    rw [← Bool.not_eq_true, isCommandScheduled_iff table]
    exact h
  rw [removeCommand, hnot]
  rfl

/-- A command that is scheduled is ended, and its bits are cleared. -/
theorem removeCommand_of_mem (h : Mem command s.addedCommandBitmap) :
    s.removeCommand table interrupted (some command) =
      { s.call (.endCommand command interrupted) with
        subsystemsAssociatedWithCommandBitmap :=
          s.subsystemsAssociatedWithCommandBitmap &&& ~~~table.getRequirementsBitwise command
        addedCommandBitmap := s.addedCommandBitmap &&& ~~~oneHot 64 command } := by
  rw [removeCommand, (isCommandScheduled_iff table).2 h]
  rfl

theorem mem_removeCommand {i : ℕ} :
    Mem i (s.removeCommand table interrupted (some command)).addedCommandBitmap ↔
      i ≠ command ∧ Mem i s.addedCommandBitmap := by
  by_cases h : Mem command s.addedCommandBitmap
  · rw [removeCommand_of_mem h]
    exact mem_erase (table.command_lt command)
  · rw [removeCommand_of_not_mem h]
    refine ⟨fun hi => ⟨?_, hi⟩, And.right⟩
    rintro rfl
    exact h hi

theorem Inv.removeCommand_some (h : Inv table s) (command : Fin nc) (interrupted : Bool) :
    Inv table (s.removeCommand table interrupted (some command)) := by
  by_cases hmem : Mem command s.addedCommandBitmap
  · have hkeep : ∀ {i},
        Mem i (s.removeCommand table interrupted (some command)).addedCommandBitmap →
        Mem i s.addedCommandBitmap := fun hi => (mem_removeCommand.1 hi).2
    refine ⟨?_, ?_, fun i hi => h.known i (hkeep hi), ?_,
      fun c other hc hother => h.disjoint c other (hkeep hc) (hkeep hother), ?_, ?_⟩
    · rw [removeCommand_of_mem hmem]
      exact each_call.2 ⟨h.calls, (h.running command).2 hmem⟩
    · intro c
      rw [mem_removeCommand, ← h.running, removeCommand_of_mem hmem]
      have hrunning : (s.call (.endCommand command interrupted)).running =
          Function.update s.running command false := running_call
      change (s.call (.endCommand command interrupted)).running c = true ↔ _
      rw [hrunning]
      by_cases heq : c = command
      · simp [heq]
      · simp [heq, Fin.val_ne_of_ne heq]
    · intro j
      rw [removeCommand_of_mem hmem]
      change Mem j (s.subsystemsAssociatedWithCommandBitmap &&&
        ~~~table.getRequirementsBitwise command) ↔ ∃ c : Fin nc,
          Mem c (s.addedCommandBitmap &&& ~~~oneHot 64 command) ∧ _
      simp only [mem_diff, h.associated, mem_oneHot (table.command_lt command)]
      constructor
      · rintro ⟨⟨c, hc, hj⟩, hnot⟩
        refine ⟨c, ⟨hc, fun heq => hnot ?_⟩, hj⟩
        rw [← Fin.ext heq]
        exact hj
      · rintro ⟨c, ⟨hc, hne⟩, hj⟩
        have hdisjoint := h.disjoint c command hc hmem fun heq => hne (congrArg Fin.val heq)
        exact ⟨⟨c, hc, hj⟩, and_eq_zero_iff.1 hdisjoint j hj⟩
    · intro c hc
      rw [registered_removeCommand]
      exact h.required c (hkeep hc)
    · intro htests
      rw [runningHardwareTests_removeCommand] at htests
      rw [eq_zero_iff]
      exact fun i hi => eq_zero_iff.1 (h.tests htests) i (hkeep hi)
  · rw [removeCommand_of_not_mem hmem]
    exact h

theorem Inv.removeCommand (h : Inv table s) (interrupted : Bool) (command : Option (Fin nc)) :
    Inv table (s.removeCommand table interrupted command) := by
  cases command with
  | none => exact h.neutral trivial
  | some command => exact h.removeCommand_some command interrupted

/-! ### Adding a command -/

/-- The scheduler with other commands and subsystems scheduled: what else it knows is the same. -/
structure SameRest (s s' : BitmapScheduler nc ns) : Prop where
  registered : s'.registeredSubsystemBitmap = s.registeredSubsystemBitmap
  master : s'.isMasterScheduler = s.isMasterScheduler
  tests : s'.runningHardwareTests = s.runningHardwareTests

theorem SameRest.refl (s : BitmapScheduler nc ns) : SameRest s s := ⟨rfl, rfl, rfl⟩

theorem SameRest.trans {s s' s'' : BitmapScheduler nc ns} (h : SameRest s s')
    (h' : SameRest s' s'') :
    SameRest s s'' :=
  ⟨h'.registered.trans h.registered, h'.master.trans h.master, h'.tests.trans h.tests⟩

theorem sameRest_removeCommand (s : BitmapScheduler nc ns) (command : Option (Fin nc)) :
    SameRest s (s.removeCommand table interrupted command) := by
  cases command with
  | none => exact ⟨rfl, rfl, rfl⟩
  | some command =>
    rw [removeCommand]
    split_ifs
    · exact SameRest.refl s
    · exact ⟨rfl, rfl, rfl⟩

/-- **Interrupting**: the commands that require one of the subsystems end, and the others go on. -/
theorem interrupt_spec (h : Inv table s) (requirements : SchedulerBitmap) :
    Inv table (s.interrupt table requirements) ∧ SameRest s (s.interrupt table requirements) ∧
      ∀ command : Fin nc, Mem command (s.interrupt table requirements).addedCommandBitmap ↔
        Mem command s.addedCommandBitmap ∧
          table.getRequirementsBitwise command &&& requirements = 0 := by
  have hloop := forEach_induct addedCommandBitmap
    (fun s it => if table.getRequirementsBitwise it &&& requirements ≠ 0 then
      s.removeCommand table true (some it) else s) s table.commands_le
    (P := fun rest s' => Inv table s' ∧ SameRest s s' ∧ ∀ command : Fin nc,
      Mem command s'.addedCommandBitmap ↔ Mem command s.addedCommandBitmap ∧
        (command ∈ rest ∨ table.getRequirementsBitwise command &&& requirements = 0)) ?_ ?_ ?_
  · obtain ⟨hinv, hrest, hmem⟩ := hloop
    exact ⟨hinv, hrest, fun command =>
      (hmem command).trans (and_congr_right fun _ => or_iff_right List.not_mem_nil)⟩
  · rintro it rest s' - ⟨hinv, hrest, hmem⟩ hnot
    refine ⟨hinv, hrest, fun command => (hmem command).trans ?_⟩
    have hit := (not_congr (hmem it)).1 hnot
    refine and_congr_right fun hadded => ?_
    rw [List.mem_cons, or_assoc]
    refine or_iff_right ?_
    rintro rfl
    exact hit ⟨hadded, Or.inl List.mem_cons_self⟩
  · rintro it rest s' hnodup ⟨hinv, hrest, hmem⟩ hit
    have hnotin := (List.nodup_cons.1 hnodup).1
    split_ifs with hshare
    · refine ⟨hinv.removeCommand_some it true, hrest.trans (sameRest_removeCommand s' _),
        fun command => ?_⟩
      rw [mem_removeCommand, hmem, List.mem_cons]
      constructor
      · rintro ⟨hne, hadded, (rfl | hin) | hzero⟩
        · exact absurd rfl hne
        · exact ⟨hadded, Or.inl hin⟩
        · exact ⟨hadded, Or.inr hzero⟩
      · rintro ⟨hadded, hin⟩
        refine ⟨?_, hadded, hin.imp_left Or.inr⟩
        intro heq
        obtain rfl := Fin.ext heq
        rcases hin with hin | hzero
        · exact hnotin hin
        · exact hshare hzero
    · refine ⟨hinv, hrest, fun command => (hmem command).trans ?_⟩
      refine and_congr_right fun hadded => ?_
      rw [List.mem_cons, or_assoc]
      refine or_iff_right_of_imp ?_
      rintro rfl
      exact Or.inr (not_not.1 hshare)
  · refine ⟨h, SameRest.refl s, fun command => ?_⟩
    exact (and_iff_left (Or.inl (List.mem_finRange command))).symm

/-- The command can be added. -/
structure Addable (table : SchedulerTable nc ns) (s : BitmapScheduler nc ns) (command : Fin nc) :
    Prop where
  registered : table.getRequirementsBitwise command &&& s.registeredSubsystemBitmap =
    table.getRequirementsBitwise command
  nonempty : table.getRequirementsBitwise command ≠ 0

/-- The state in which a command that is added begins. -/
def begin (table : SchedulerTable nc ns) (s : BitmapScheduler nc ns) (command : Fin nc) :
    BitmapScheduler nc ns :=
  let s := s.interrupt table (table.getRequirementsBitwise command)
  { s.call (.initializeCommand command) with
    subsystemsAssociatedWithCommandBitmap :=
      s.subsystemsAssociatedWithCommandBitmap ||| table.getRequirementsBitwise command
    addedCommandBitmap := s.addedCommandBitmap ||| oneHot 64 command }

theorem mem_begin (h : Inv table s) (command other : Fin nc) :
    Mem other (begin table s command).addedCommandBitmap ↔ other = command ∨
      Mem other s.addedCommandBitmap ∧
        table.getRequirementsBitwise other &&& table.getRequirementsBitwise command = 0 := by
  change Mem other.val (_ ||| oneHot 64 command.val) ↔ _
  rw [mem_insert (table.command_lt command), (interrupt_spec h _).2.2, Fin.ext_iff]

/-- **A command begins**. -/
theorem Inv.begin (h : Inv table s) (hadd : Addable table s command)
    (htests : s.runningHardwareTests = false) : Inv table (begin table s command) := by
  obtain ⟨hinv, hrest, hmem⟩ := interrupt_spec h (table.getRequirementsBitwise command)
  have hnot : ¬ Mem command
      (s.interrupt table (table.getRequirementsBitwise command)).addedCommandBitmap :=
        fun hcommand =>
    hadd.nonempty ((BitVec.and_self).symm.trans ((hmem command).1 hcommand).2)
  refine ⟨?_, fun c => ?_, fun i hi => ?_, fun j => ?_, fun c other hc hother hne => ?_,
    fun c hc => ?_, fun hrunning => ?_⟩
  · refine each_call.2 ⟨hinv.calls, ?_, fun other hother => ?_⟩
    · rw [← Bool.not_eq_true, hinv.running]
      exact hnot
    · exact ((hmem other).1 ((hinv.running other).1 hother)).2
  · have hrunning : (BitmapScheduler.begin table s command).running =
        Function.update (s.interrupt table (table.getRequirementsBitwise command)).running
          command true := running_call
    rw [mem_begin h, hrunning, Function.update_apply, ← hmem c, ← hinv.running c]
    split_ifs with heq
    · exact iff_of_true rfl (Or.inl heq)
    · exact (or_iff_right heq).symm
  · rcases (mem_insert (table.command_lt command)).1 hi with rfl | hi
    · exact command.isLt
    · exact hinv.known i hi
  · change Mem j (_ ||| table.getRequirementsBitwise command) ↔ ∃ c : Fin nc,
      Mem c.val (_ ||| oneHot 64 command.val) ∧ _
    simp only [mem_or, hinv.associated, mem_oneHot (table.command_lt command)]
    constructor
    · rintro (⟨c, hc, hj⟩ | hj)
      · exact ⟨c, Or.inl hc, hj⟩
      · exact ⟨command, Or.inr rfl, hj⟩
    · rintro ⟨c, hc | hc, hj⟩
      · exact Or.inl ⟨c, hc, hj⟩
      · rw [Fin.ext hc] at hj
        exact Or.inr hj
  · rcases (mem_begin h command c).1 hc with rfl | ⟨hc, hzero⟩
    · rcases (mem_begin h c other).1 hother with rfl | ⟨-, hzero⟩
      · exact absurd rfl hne
      · exact and_comm_eq_zero hzero
    · rcases (mem_begin h command other).1 hother with rfl | ⟨hother, -⟩
      · exact hzero
      · exact h.disjoint c other hc hother hne
  · have hregistered : (BitmapScheduler.begin table s command).registeredSubsystemBitmap =
        s.registeredSubsystemBitmap := hrest.registered
    rw [hregistered]
    rcases (mem_begin h command c).1 hc with rfl | ⟨hc, -⟩
    · exact ⟨hadd.nonempty, hadd.registered⟩
    · exact h.required c hc
  · have hsame : (BitmapScheduler.begin table s command).runningHardwareTests = false :=
      hrest.tests.trans htests
    rw [hsame] at hrunning
    exact absurd hrunning Bool.false_ne_true

/-- Nothing has happened but questions and an error. -/
structure Idle (s s' : BitmapScheduler nc ns) : Prop where
  rest : SameRest s s'
  added : s'.addedCommandBitmap = s.addedCommandBitmap
  associated : s'.subsystemsAssociatedWithCommandBitmap = s.subsystemsAssociatedWithCommandBitmap
  calls : s'.calls = s.calls ∨ ∃ text, s'.calls = s.calls ++ [.RAISE_ERROR text]

theorem Inv.idle {s' : BitmapScheduler nc ns} (h : Inv table s) (hidle : Idle s s') :
    Inv table s' := by
  have hcalls : Each underWay (InPlace table) (fun _ => false) s'.calls ∧
      s'.running = s.running := by
    rcases hidle.calls with hcalls | ⟨text, hcalls⟩
    · rw [BitmapScheduler.running, hcalls]
      exact ⟨h.calls, rfl⟩
    · rw [BitmapScheduler.running, hcalls]
      exact ⟨each_call.2 ⟨h.calls, trivial⟩, running_call⟩
  refine ⟨hcalls.1, ?_, ?_, ?_, ?_, ?_, ?_⟩
  · rw [hcalls.2, hidle.added]
    exact h.running
  · rw [hidle.added]
    exact h.known
  · rw [hidle.associated, hidle.added]
    exact h.associated
  · rw [hidle.added]
    exact h.disjoint
  · rw [hidle.added, hidle.rest.registered]
    exact h.required
  · rw [hidle.added, hidle.rest.tests]
    exact h.tests

/-- **What `addCommand` does**: nothing, or the command begins. -/
theorem addCommand_cases (table : SchedulerTable nc ns) (robot : ℕ → Question nc ns → Bool)
    (s : BitmapScheduler nc ns) (commandToAdd : Option (Fin nc)) :
    Idle s (s.addCommand table robot commandToAdd) ∨
      ∃ command, commandToAdd = some command ∧ Addable table s command ∧
        s.runningHardwareTests = false ∧ s.answer robot .safeDisconnected = false ∧
        s.addCommand table robot commandToAdd = begin table s.next.next command := by
  have hnext : Idle s s.next := ⟨⟨rfl, rfl, rfl⟩, rfl, rfl, Or.inl rfl⟩
  have hnext₂ : Idle s s.next.next := ⟨⟨rfl, rfl, rfl⟩, rfl, rfl, Or.inl rfl⟩
  have herror : ∀ text, Idle s (s.next.call (.RAISE_ERROR text)) :=
    fun text => ⟨⟨rfl, rfl, rfl⟩, rfl, rfl, Or.inr ⟨text, rfl⟩⟩
  have herror₂ : ∀ text, Idle s (s.next.next.call (.RAISE_ERROR text)) :=
    fun text => ⟨⟨rfl, rfl, rfl⟩, rfl, rfl, Or.inr ⟨text, rfl⟩⟩
  unfold addCommand
  dsimp only
  split_ifs with hdisconnected htests
  · exact Or.inl hnext
  · exact Or.inl (herror _)
  · cases commandToAdd with
    | none => exact Or.inl (herror _)
    | some command =>
      dsimp only
      split_ifs with hready hrefused
      · exact Or.inl hnext₂
      · exact Or.inl (herror₂ _)
      · rw [not_or, not_not] at hrefused
        exact Or.inr ⟨command, rfl, ⟨hrefused.1, hrefused.2⟩, Bool.eq_false_of_not_eq_true htests,
          Bool.eq_false_of_not_eq_true hdisconnected, rfl⟩

theorem Inv.addCommand (h : Inv table s) (robot : ℕ → Question nc ns → Bool)
    (commandToAdd : Option (Fin nc)) : Inv table (s.addCommand table robot commandToAdd) := by
  rcases addCommand_cases table robot s commandToAdd with hidle |
    ⟨command, rfl, hadd, htests, -, heq⟩
  · exact h.idle hidle
  · rw [heq]
    exact h.next.next.begin ⟨hadd.registered, hadd.nonempty⟩ htests

theorem sameRest_begin (h : Inv table s) (command : Fin nc) :
    SameRest s (begin table s command) :=
  (interrupt_spec h _).2.1.trans ⟨rfl, rfl, rfl⟩

theorem sameRest_addCommand (h : Inv table s) (robot : ℕ → Question nc ns → Bool)
    (commandToAdd : Option (Fin nc)) : SameRest s (s.addCommand table robot commandToAdd) := by
  rcases addCommand_cases table robot s commandToAdd with hidle | ⟨command, rfl, -, -, -, heq⟩
  · exact hidle.rest
  · have hnext : SameRest s s.next.next := ⟨rfl, rfl, rfl⟩
    rw [heq]
    exact hnext.trans (sameRest_begin h.next.next command)

/-! ### The other operations -/

theorem Inv.executeCommand (h : Inv table s) (robot : ℕ → Question nc ns → Bool)
    (hscheduled : Mem command s.addedCommandBitmap) :
    Inv table (s.executeCommand table robot command) := by
  unfold BitmapScheduler.executeCommand
  dsimp only
  split_ifs
  · exact (h.execute hscheduled).next.removeCommand_some command false
  · exact (h.execute hscheduled).next

theorem Inv.runCommands (h : Inv table s) (robot : ℕ → Question nc ns → Bool) :
    Inv table (s.runCommands table robot) := by
  unfold BitmapScheduler.runCommands
  split_ifs
  · exact forEach_inv table.commands_le
      (fun it s' h' _ => h'.removeCommand_some it true) h.next
  · exact forEach_inv table.commands_le
      (fun it s' h' hit => h'.executeCommand robot hit) h.next

theorem Inv.refreshSubsystem (h : Inv table s) (robot : ℕ → Question nc ns → Bool) (sub : Fin ns) :
    Inv table (s.refreshSubsystem table robot sub) := by
  have hrefresh : Inv table (s.next.call
      (if s.answer robot .safeDisconnected then .refreshSafeDisconnect sub else .refresh sub)) := by
    refine h.next.neutral ?_
    split_ifs <;> trivial
  unfold BitmapScheduler.refreshSubsystem
  generalize s.next.call (if s.answer robot .safeDisconnected then .refreshSafeDisconnect sub
    else .refresh sub) = refreshed at hrefresh
  dsimp only
  split_ifs with hdefault
  · exact hrefresh.next.addCommand robot _
  · exact hrefresh.next

theorem Inv.runSubsystems (h : Inv table s) (robot : ℕ → Question nc ns → Bool) :
    Inv table (s.runSubsystems table robot) := by
  unfold BitmapScheduler.runSubsystems
  split_ifs
  · exact forEach_inv table.subsystems_le (fun it s' h' _ => h'.refreshSubsystem robot it) h
  · exact h

theorem Inv.testSubsystem (h : Inv table s) (robot : ℕ → Question nc ns → Bool) (sub : Fin ns) :
    Inv table (s.testSubsystem robot sub) := by
  unfold BitmapScheduler.testSubsystem
  refine Inv.neutral ?_ trivial
  split_ifs
  · exact h.next
  · exact h.next.neutral trivial

theorem Inv.run (h : Inv table s) (robot : ℕ → Question nc ns → Bool) :
    Inv table (s.run table robot) := by
  unfold BitmapScheduler.run
  split_ifs
  · exact forEach_inv table.subsystems_le (fun it s' h' _ => h'.testSubsystem robot it) h
  · have hrun := (h.runCommands robot).runSubsystems robot
    unfold checkRuntime
    split_ifs
    · exact hrun.next.neutral trivial
    · exact hrun.next

theorem Inv.registerSubsystem (h : Inv table s) (subsystem : Option (Fin ns)) :
    Inv table (s.registerSubsystem subsystem) := by
  cases subsystem with
  | none => exact h.neutral trivial
  | some sub =>
    unfold BitmapScheduler.registerSubsystem
    dsimp only
    split_ifs
    · exact h.neutral trivial
    · refine ⟨h.calls, h.running, h.known, h.associated, h.disjoint, fun c hc => ?_, h.tests⟩
      obtain ⟨hnonempty, hregistered⟩ := h.required c hc
      refine ⟨hnonempty, and_eq_left_iff.2 fun i hi => ?_⟩
      exact mem_or.2 (Or.inl (and_eq_left_iff.1 hregistered i hi))

/-- All commands have ended when the hardware tests start. -/
theorem Inv.startHardwareTests (h : Inv table s) : Inv table s.startHardwareTests := by
  have hloop := forEach_induct addedCommandBitmap
    (fun s (it : Fin nc) => s.call (.endCommand it true)) { s with runningHardwareTests := true }
    table.commands_le
    (P := fun rest s' => s'.addedCommandBitmap = s.addedCommandBitmap ∧
      Each underWay (InPlace table) (fun _ => false) s'.calls ∧ ∀ command : Fin nc,
        s'.running command = true ↔ Mem command s.addedCommandBitmap ∧ command ∈ rest) ?_ ?_ ?_
  · obtain ⟨-, hcalls, hrunning⟩ := hloop
    refine forEach_inv table.subsystems_le (fun it s' h' _ => h'.neutral trivial) ?_
    refine ⟨hcalls, fun c => iff_of_false (fun hc => ?_) not_mem_zero, fun i hi => ?_, fun j => ?_,
      fun c other hc => ?_, fun c hc => ?_, fun _ => rfl⟩
    · exact List.not_mem_nil ((hrunning c).1 hc).2
    · exact absurd hi not_mem_zero
    · exact iff_of_false not_mem_zero fun ⟨_, hc, _⟩ => not_mem_zero hc
    · exact absurd hc not_mem_zero
    · exact absurd hc not_mem_zero
  · rintro it rest s' - ⟨hadded, hcalls, hrunning⟩ hnot
    rw [hadded] at hnot
    refine ⟨hadded, hcalls, fun command => (hrunning command).trans ?_⟩
    refine and_congr_right fun hmem => List.mem_cons.trans (or_iff_right ?_)
    rintro rfl
    exact hnot hmem
  · rintro it rest s' hnodup ⟨hadded, hcalls, hrunning⟩ hit
    rw [hadded] at hit
    refine ⟨hadded, each_call.2 ⟨hcalls, (hrunning it).2 ⟨hit, List.mem_cons_self⟩⟩,
      fun command => ?_⟩
    have hcall : (s'.call (.endCommand it true)).running =
        Function.update s'.running it false := running_call
    rw [hcall, Function.update_apply]
    by_cases heq : command = it
    · rw [if_pos heq, heq]
      exact iff_of_false Bool.false_ne_true fun hin => (List.nodup_cons.1 hnodup).1 hin.2
    · rw [if_neg heq, hrunning, List.mem_cons, or_iff_right heq]
  · refine ⟨rfl, h.calls, fun command => ?_⟩
    exact (h.running command).trans (and_iff_left (List.mem_finRange command)).symm

theorem Inv.stopHardwareTests (h : Inv table s) : Inv table s.stopHardwareTests := by
  have hloop : Inv table (s.forEachSubsystem fun s it => s.call (.setHardwareTestsComplete it)) :=
    forEach_inv table.subsystems_le (fun it s' h' _ => h'.neutral trivial) h
  exact ⟨hloop.calls, hloop.running, hloop.known, hloop.associated, hloop.disjoint,
    hloop.required, fun htests => absurd htests Bool.false_ne_true⟩

/-- **One operation** keeps the invariant. -/
theorem Inv.step (h : Inv table s) (robot : ℕ → Question nc ns → Bool) (op : Operation nc ns) :
    Inv table (s.step table robot op) := by
  cases op with
  | run => exact h.run robot
  | addCommand command => exact h.addCommand robot command
  | removeCommand command interrupted => exact h.removeCommand interrupted command
  | registerSubsystem subsystem => exact h.registerSubsystem subsystem
  | startHardwareTests => exact h.startHardwareTests
  | stopHardwareTests => exact h.stopHardwareTests

/-- **The commands of a scheduler over any run**, whatever the robot answers. -/
theorem inv_run (table : SchedulerTable nc ns) (robot : ℕ → Question nc ns → Bool)
    (isMasterScheduler : Bool) (operations : List (Operation nc ns)) :
    Inv table (after (step table robot) (construct isMasterScheduler) operations) :=
  Run.inv_after (fun _ op h => h.step robot op) (inv_construct isMasterScheduler)

end Aimbots.Tap.BitmapScheduler
