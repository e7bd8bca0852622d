import Aimbots.Tap.CommandMapper

/-!
# A command runs only while the remote asks for it

A command that is mapped by hold mappings, by hold repeat mappings that end their commands, and by
toggle mappings, and that nothing else adds, is scheduled only while one of its mappings holds it
(`held_run`): in every run, whatever else is scheduled and whatever the robot answers.  All that the
mapper does with the scheduler is to add and to remove commands (`exists_operations`), so that the
invariant of the scheduler holds as well.
-/

namespace Aimbots.Tap

open Bitmap
open Run (after)

namespace BitmapScheduler

variable {nc ns : ℕ} {table : SchedulerTable nc ns} {robot : ℕ → Question nc ns → Bool}
  {s s' : BitmapScheduler nc ns} {i : ℕ}

/-! ### What schedules a command -/

theorem mem_of_mem_removeCommand {interrupted : Bool} {command : Option (Fin nc)}
    (h : Mem i (s.removeCommand table interrupted command).addedCommandBitmap) :
    Mem i s.addedCommandBitmap := by
  cases command with
  | none => exact h
  | some command => exact (mem_removeCommand.1 h).2

/-- A loop whose steps schedule nothing schedules nothing. -/
theorem mem_of_mem_forEach {n : ℕ} (hn : n ≤ 64) {bitmap : BitmapScheduler nc ns → SchedulerBitmap}
    {body : BitmapScheduler nc ns → Fin n → BitmapScheduler nc ns}
    (hbody : ∀ it s, Mem i (body s it).addedCommandBitmap → Mem i s.addedCommandBitmap)
    (h : Mem i (forEach bitmap body s).addedCommandBitmap) : Mem i s.addedCommandBitmap :=
  forEach_inv hn (P := fun s' => Mem i s'.addedCommandBitmap → Mem i s.addedCommandBitmap)
    (fun it s' hs' _ hmem => hs' (hbody it s' hmem)) id h

theorem mem_of_mem_interrupt {requirements : SchedulerBitmap}
    (h : Mem i (s.interrupt table requirements).addedCommandBitmap) :
    Mem i s.addedCommandBitmap := by
  refine mem_of_mem_forEach table.commands_le (fun it s' hmem => ?_) h
  split_ifs at hmem
  · exact mem_of_mem_removeCommand hmem
  · exact hmem

/-- `addCommand` schedules its command at most. -/
theorem mem_of_mem_addCommand {commandToAdd : Option (Fin nc)}
    (h : Mem i (s.addCommand table robot commandToAdd).addedCommandBitmap) :
    Mem i s.addedCommandBitmap ∨ ∃ command, commandToAdd = some command ∧ i = command.val := by
  rcases addCommand_cases table robot s commandToAdd with hidle | ⟨command, hcommand, -, -, -, heq⟩
  · exact Or.inl (hidle.added ▸ h)
  · rw [heq] at h
    rcases (mem_insert (table.command_lt command)).1 h with hi | hmem
    · exact Or.inr ⟨command, hcommand, hi⟩
    · have hbefore := mem_of_mem_interrupt (s := s.next.next) hmem
      exact Or.inl hbefore

theorem mem_of_mem_executeCommand {command : Fin nc}
    (h : Mem i (s.executeCommand table robot command).addedCommandBitmap) :
    Mem i s.addedCommandBitmap := by
  unfold executeCommand at h
  dsimp only at h
  split_ifs at h
  · have hbefore := mem_of_mem_removeCommand (s := (s.call (.execute command)).next) h
    exact hbefore
  · exact h

theorem mem_of_mem_runCommands (h : Mem i (s.runCommands table robot).addedCommandBitmap) :
    Mem i s.addedCommandBitmap := by
  unfold runCommands at h
  split_ifs at h
  · have hbefore := mem_of_mem_forEach (s := s.next) table.commands_le
      (fun it s' hmem => mem_of_mem_removeCommand hmem) h
    exact hbefore
  · have hbefore := mem_of_mem_forEach (s := s.next) table.commands_le
      (fun it s' hmem => mem_of_mem_executeCommand hmem) h
    exact hbefore

theorem mem_of_mem_refreshSubsystem {sub : Fin ns} {command : Fin nc}
    (hdefault : table.getDefaultCommand sub ≠ some command)
    (h : Mem command (s.refreshSubsystem table robot sub).addedCommandBitmap) :
    Mem command s.addedCommandBitmap := by
  unfold refreshSubsystem at h
  have hrefresh : (s.next.call (if s.answer robot .safeDisconnected then .refreshSafeDisconnect sub
      else .refresh sub)).addedCommandBitmap = s.addedCommandBitmap := rfl
  generalize s.next.call (if s.answer robot .safeDisconnected then .refreshSafeDisconnect sub
    else .refresh sub) = refreshed at h hrefresh
  dsimp only at h
  rw [← hrefresh]
  split_ifs at h
  · rcases mem_of_mem_addCommand (s := refreshed.next) h with hmem | ⟨other, hother, heq⟩
    · exact hmem
    · exact absurd (Fin.ext heq ▸ hother) hdefault
  · exact h

theorem mem_of_mem_testSubsystem {sub : Fin ns}
    (h : Mem i (s.testSubsystem robot sub).addedCommandBitmap) : Mem i s.addedCommandBitmap := by
  unfold testSubsystem at h
  dsimp only at h
  split_ifs at h <;> exact h

/-- `run()` schedules default commands at most. -/
theorem mem_of_mem_run {command : Fin nc}
    (hdefault : ∀ sub, table.getDefaultCommand sub ≠ some command)
    (h : Mem command (s.run table robot).addedCommandBitmap) :
    Mem command s.addedCommandBitmap := by
  unfold run at h
  split_ifs at h
  · exact mem_of_mem_forEach table.subsystems_le (fun it s' hmem => mem_of_mem_testSubsystem hmem) h
  · have hsubsystems : Mem command
        ((s.runCommands table robot).runSubsystems table robot).addedCommandBitmap := by
      unfold checkRuntime at h
      split_ifs at h <;> exact h
    unfold runSubsystems at hsubsystems
    split_ifs at hsubsystems
    · exact mem_of_mem_runCommands (mem_of_mem_forEach table.subsystems_le
        (fun it s' hmem => mem_of_mem_refreshSubsystem (hdefault it) hmem) hsubsystems)
    · exact mem_of_mem_runCommands hsubsystems

/-- A loop of calls schedules nothing and removes nothing. -/
theorem added_calls (hn : ns ≤ 64) (k : Fin ns → Call nc ns) (s : BitmapScheduler nc ns) :
    (s.forEachSubsystem fun s it => s.call (k it)).addedCommandBitmap = s.addedCommandBitmap :=
  forEach_inv hn
    (P := fun s' : BitmapScheduler nc ns => s'.addedCommandBitmap = s.addedCommandBitmap)
    (fun _ _ hs' _ => hs') rfl

/-- An operation that does not add a command, which is no default command, does not schedule it. -/
theorem mem_of_mem_step {command : Fin nc} {operation : Operation nc ns}
    (hdefault : ∀ sub, table.getDefaultCommand sub ≠ some command)
    (hadd : operation ≠ .addCommand (some command))
    (h : Mem command (s.step table robot operation).addedCommandBitmap) :
    Mem command s.addedCommandBitmap := by
  cases operation with
  | run => exact mem_of_mem_run hdefault h
  | addCommand commandToAdd =>
    rcases mem_of_mem_addCommand h with hmem | ⟨other, rfl, heq⟩
    · exact hmem
    · exact absurd (by rw [Fin.ext heq]) hadd
  | removeCommand other interrupted => exact mem_of_mem_removeCommand h
  | registerSubsystem subsystem =>
    cases subsystem with
    | none => exact h
    | some sub =>
      rw [BitmapScheduler.step] at h
      unfold registerSubsystem at h
      dsimp only at h
      split_ifs at h <;> exact h
  | startHardwareTests =>
    have hzero : (s.startHardwareTests).addedCommandBitmap = 0 :=
      added_calls table.subsystems_le _ _
    rw [BitmapScheduler.step, hzero] at h
    exact absurd h not_mem_zero
  | stopHardwareTests =>
    have hsame : (s.stopHardwareTests).addedCommandBitmap = s.addedCommandBitmap :=
      added_calls table.subsystems_le _ _
    rw [BitmapScheduler.step, hsame] at h
    exact h

/-! ### Operations one after another -/

/-- Some operations of the scheduler lead from one state to the other. -/
def Reaches (table : SchedulerTable nc ns) (robot : ℕ → Question nc ns → Bool)
    (s s' : BitmapScheduler nc ns) : Prop :=
  ∃ operations, s' = after (step table robot) s operations

theorem Reaches.refl (s : BitmapScheduler nc ns) : Reaches table robot s s := ⟨[], rfl⟩

theorem Reaches.single (s : BitmapScheduler nc ns) (operation : Operation nc ns) :
    Reaches table robot s (s.step table robot operation) := ⟨[operation], rfl⟩

theorem Reaches.trans {s'' : BitmapScheduler nc ns} (h : Reaches table robot s s')
    (h' : Reaches table robot s' s'') : Reaches table robot s s'' := by
  obtain ⟨operations, rfl⟩ := h
  obtain ⟨operations', rfl⟩ := h'
  exact ⟨operations ++ operations', (Run.after_append operations).symm⟩

theorem reaches_foldl {A : Type*} {body : BitmapScheduler nc ns → A → BitmapScheduler nc ns}
    (hbody : ∀ s a, Reaches table robot s (body s a)) (l : List A) (s : BitmapScheduler nc ns) :
    Reaches table robot s (l.foldl body s) := by
  induction l generalizing s with
  | nil => exact Reaches.refl s
  | cons a l ih => exact (hbody s a).trans (ih _)

end BitmapScheduler

/-! ### One mapping -/

/-- The mapping holds its commands. -/
def MappingState.holds : MappingState → Bool
  | .hold commandScheduled => commandScheduled
  | .holdRepeat held _ _ _ => held
  | .press pressed => pressed
  | .toggle _ toggled => toggled

/-- The mapping removes the commands that it no longer holds. -/
def MappingState.ends : MappingState → Bool
  | .hold _ | .toggle _ _ => true
  | .holdRepeat _ endCommandsWhenNotHeld _ _ => endCommandsWhenNotHeld
  | .press _ => false

/-- The mapping is a toggle mapping. -/
def MappingState.toggles : MappingState → Bool
  | .toggle _ _ => true
  | _ => false

namespace CommandMapping

open BitmapScheduler

variable {nc ns : ℕ} {table : SchedulerTable nc ns} {robot : ℕ → Question nc ns → Bool}
  {m : CommandMapping nc} {s : BitmapScheduler nc ns} {currState : RemoteMapState}
  {command : Fin nc}

theorem mem_of_mem_addCommands (h : Mem command (m.addCommands table robot s).addedCommandBitmap) :
    Mem command s.addedCommandBitmap ∨ some command ∈ m.mappedCommands := by
  unfold addCommands at h
  generalize m.mappedCommands = cmds at h ⊢
  induction cmds generalizing s with
  | nil => exact Or.inl h
  | cons cmd cmds ih =>
    rcases ih h with hmem | hin
    · rcases mem_of_mem_addCommand hmem with hbefore | ⟨other, rfl, heq⟩
      · exact Or.inl hbefore
      · rw [Fin.ext heq]
        exact Or.inr List.mem_cons_self
    · exact Or.inr (List.mem_cons_of_mem _ hin)

/-- The commands of the mapping are no longer scheduled, and no others are. -/
theorem mem_of_mem_removeCommands (h : Mem command (m.removeCommands table s).addedCommandBitmap) :
    Mem command s.addedCommandBitmap ∧ some command ∉ m.mappedCommands := by
  unfold removeCommands at h
  generalize m.mappedCommands = cmds at h ⊢
  induction cmds generalizing s with
  | nil => exact ⟨h, List.not_mem_nil⟩
  | cons cmd cmds ih =>
    obtain ⟨hmem, hnotin⟩ := ih h
    refine ⟨mem_of_mem_removeCommand hmem, fun hin => ?_⟩
    rcases List.mem_cons.1 hin with rfl | hin
    · exact (mem_removeCommand.1 hmem).1 rfl
    · exact hnotin hin

theorem mem_of_mem_scheduleHeld {maxTimesToSchedule : ℤ} {cmds : List (Option (Fin nc))} {i : ℕ}
    {rescheduleCounts : List ℤ} (h : Mem command
      (scheduleHeld table robot maxTimesToSchedule cmds i rescheduleCounts
        s).2.addedCommandBitmap) :
    Mem command s.addedCommandBitmap ∨ some command ∈ cmds := by
  induction cmds generalizing s i rescheduleCounts with
  | nil => exact Or.inl h
  | cons cmd cmds ih =>
    rw [scheduleHeld] at h
    split_ifs at h
    · rcases ih h with hmem | hin
      · rcases mem_of_mem_addCommand hmem with hbefore | ⟨other, rfl, heq⟩
        · exact Or.inl hbefore
        · rw [Fin.ext heq]
          exact Or.inr List.mem_cons_self
      · exact Or.inr (List.mem_cons_of_mem _ hin)
    · exact (ih h).imp_right (List.mem_cons_of_mem _)

theorem not_mem_of_noCommandsScheduled (table : SchedulerTable nc ns)
    (h : m.noCommandsScheduled s = true) (hin : some command ∈ m.mappedCommands) :
    ¬ Mem command s.addedCommandBitmap := by
  have hcommand := List.all_eq_true.1 h _ hin
  rw [isPointerScheduled, Bool.not_eq_true', ← Bool.not_eq_true, isCommandScheduled_iff table]
    at hcommand
  exact hcommand

/-- What a mapping may do: to schedule its commands, only when it holds them afterwards, and to end
them when it no longer holds them. -/
structure Follows (m m' : CommandMapping nc) (s s' : BitmapScheduler nc ns)
    (currState : RemoteMapState) : Prop where
  mapState : m'.mapState = m.mapState
  mappedCommands : m'.mappedCommands = m.mappedCommands
  ends : m'.state.ends = m.state.ends
  toggles : m'.state.toggles = m.state.toggles
  added : ∀ command : Fin nc, Mem command s'.addedCommandBitmap →
    Mem command s.addedCommandBitmap ∨ some command ∈ m.mappedCommands ∧ m'.state.holds = true
  removed : ∀ command : Fin nc, m.state.ends = true → m.state.holds = true →
    some command ∈ m.mappedCommands → Mem command s'.addedCommandBitmap → m'.state.holds = true
  active : m'.state.toggles = false → m'.state.holds = true → m.mapState.active currState = true

theorem follows_hold (m : CommandMapping nc) (commandScheduled : Bool) :
    let executed := m.executeHold table robot s currState commandScheduled
    Follows { m with state := .hold commandScheduled } { m with state := executed.1 } s executed.2
      currState := by
  intro executed
  have hexecuted : executed = m.executeHold table robot s currState commandScheduled := rfl
  unfold executeHold at hexecuted
  split_ifs at hexecuted with hactive hscheduled hscheduled <;> rw [hexecuted]
  · refine ⟨rfl, rfl, rfl, rfl, fun _ h => ?_, fun _ _ _ _ _ => rfl, fun _ _ => hactive⟩
    exact (mem_of_mem_addCommands h).imp_right fun hin => ⟨hin, rfl⟩
  · exact ⟨rfl, rfl, rfl, rfl, fun _ => Or.inl, fun _ _ hholds _ _ => hholds, fun _ _ => hactive⟩
  · refine ⟨rfl, rfl, rfl, rfl, fun _ h => ?_, fun _ _ _ hin h => ?_,
      fun _ hholds => absurd hholds Bool.false_ne_true⟩
    · exact Or.inl (mem_of_mem_removeCommands h).1
    · exact absurd hin (mem_of_mem_removeCommands h).2
  · exact ⟨rfl, rfl, rfl, rfl, fun _ => Or.inl, fun _ _ hholds _ _ => hholds,
      fun _ hholds => absurd hholds hscheduled⟩

theorem follows_holdRepeat (m : CommandMapping nc) (held endCommandsWhenNotHeld : Bool)
    (maxTimesToSchedule : ℤ) (rescheduleCounts : List ℤ) :
    let executed := m.executeHoldRepeat table robot s currState held endCommandsWhenNotHeld
      maxTimesToSchedule rescheduleCounts
    Follows
      { m with
        state := .holdRepeat held endCommandsWhenNotHeld maxTimesToSchedule rescheduleCounts }
      { m with state := executed.1 } s executed.2 currState := by
  intro executed
  have hexecuted : executed = m.executeHoldRepeat table robot s currState held
    endCommandsWhenNotHeld maxTimesToSchedule rescheduleCounts := rfl
  unfold executeHoldRepeat at hexecuted
  split_ifs at hexecuted with hactive hheld hends <;> rw [hexecuted]
  · refine ⟨rfl, rfl, rfl, rfl, fun _ h => ?_, fun _ _ _ _ _ => rfl, fun _ _ => hactive⟩
    exact (mem_of_mem_scheduleHeld h).imp_right fun hin => ⟨hin, rfl⟩
  · refine ⟨rfl, rfl, rfl, rfl, fun _ h => ?_, fun _ _ _ hin h => ?_,
      fun _ hholds => absurd hholds Bool.false_ne_true⟩
    · exact Or.inl (mem_of_mem_removeCommands h).1
    · exact absurd hin (mem_of_mem_removeCommands h).2
  · exact ⟨rfl, rfl, rfl, rfl, fun _ => Or.inl, fun _ h => absurd h hends,
      fun _ hholds => absurd hholds Bool.false_ne_true⟩
  · exact ⟨rfl, rfl, rfl, rfl, fun _ => Or.inl, fun _ _ hholds _ _ => hholds,
      fun _ hholds => absurd hholds hheld⟩

theorem follows_press (m : CommandMapping nc) (pressed : Bool) :
    let executed := m.executePress table robot s currState pressed
    Follows { m with state := .press pressed } { m with state := executed.1 } s executed.2
      currState := by
  intro executed
  have hexecuted : executed = m.executePress table robot s currState pressed := rfl
  unfold executePress at hexecuted
  split_ifs at hexecuted with hactive hpressed <;> rw [hexecuted]
  · refine ⟨rfl, rfl, rfl, rfl, fun _ h => ?_, fun _ _ _ _ _ => rfl, fun _ _ => hactive⟩
    exact (mem_of_mem_addCommands h).imp_right fun hin => ⟨hin, rfl⟩
  · exact ⟨rfl, rfl, rfl, rfl, fun _ => Or.inl, fun _ _ hholds _ _ => hholds, fun _ _ => hactive⟩
  · exact ⟨rfl, rfl, rfl, rfl, fun _ => Or.inl, fun _ h => absurd h Bool.false_ne_true,
      fun _ hholds => absurd hholds Bool.false_ne_true⟩

/-- A toggle mapping whose commands have all finished holds nothing that is still scheduled. -/
theorem follows_toggle (m : CommandMapping nc) (pressed toggled : Bool) :
    let executed := m.executeToggle table robot s currState pressed toggled
    Follows { m with state := .toggle pressed toggled } { m with state := executed.1 } s executed.2
      currState := by
  intro executed
  have hexecuted : executed = m.executeToggle table robot s currState pressed toggled := rfl
  unfold executeToggle at hexecuted
  dsimp only at hexecuted
  generalize hp : (if (m.noCommandsScheduled s && toggled) = true then false else pressed) = p
    at hexecuted
  generalize ht : (if (m.noCommandsScheduled s && toggled) = true then false else toggled) = t
    at hexecuted
  have hkeep : ∀ command : Fin nc, toggled = true → some command ∈ m.mappedCommands →
      Mem command s.addedCommandBitmap → t = true := by
    intro command htoggled hin hmem
    rw [← ht, if_neg fun h => ?_]
    · exact htoggled
    · exact not_mem_of_noCommandsScheduled table ((Bool.and_eq_true _ _).mp h).1 hin hmem
  split_ifs at hexecuted with hneg ht hsubset hp htoggled <;> rw [hexecuted]
  · refine ⟨rfl, rfl, rfl, rfl, fun _ h => ?_, fun _ _ _ hin h => ?_,
      fun h => absurd h.symm Bool.false_ne_true⟩
    · exact Or.inl (mem_of_mem_removeCommands h).1
    · exact absurd hin (mem_of_mem_removeCommands h).2
  · exact ⟨rfl, rfl, rfl, rfl, fun _ => Or.inl, fun c _ hholds hin h =>
      absurd (hkeep c hholds hin h) ht,
      fun h => absurd h.symm Bool.false_ne_true⟩
  · refine ⟨rfl, rfl, rfl, rfl, fun _ h => ?_, fun _ _ _ _ _ => htoggled,
      fun h => absurd h.symm Bool.false_ne_true⟩
    exact (mem_of_mem_addCommands h).imp_right fun hin => ⟨hin, htoggled⟩
  · refine ⟨rfl, rfl, rfl, rfl, fun _ h => ?_, fun _ _ _ hin h => ?_,
      fun h => absurd h.symm Bool.false_ne_true⟩
    · exact Or.inl (mem_of_mem_removeCommands h).1
    · exact absurd hin (mem_of_mem_removeCommands h).2
  · exact ⟨rfl, rfl, rfl, rfl, fun _ => Or.inl, fun c _ hholds hin h => hkeep c hholds hin h,
      fun h => absurd h.symm Bool.false_ne_true⟩
  · exact ⟨rfl, rfl, rfl, rfl, fun _ => Or.inl, fun c _ hholds hin h => hkeep c hholds hin h,
      fun h => absurd h.symm Bool.false_ne_true⟩

/-- **What a mapping does with a command**, whatever its class. -/
theorem follows_execute (table : SchedulerTable nc ns) (robot : ℕ → Question nc ns → Bool)
    (m : CommandMapping nc) (s : BitmapScheduler nc ns)
    (currState : RemoteMapState) :
    Follows m (m.executeCommandMapping table robot s currState).1 s
      (m.executeCommandMapping table robot s currState).2 currState := by
  obtain ⟨mapState, mappedCommands, state⟩ := m
  cases state with
  | hold commandScheduled => exact follows_hold ⟨mapState, mappedCommands, _⟩ commandScheduled
  | holdRepeat held endCommandsWhenNotHeld maxTimesToSchedule rescheduleCounts =>
    exact follows_holdRepeat ⟨mapState, mappedCommands, _⟩ held endCommandsWhenNotHeld
      maxTimesToSchedule rescheduleCounts
  | press pressed => exact follows_press ⟨mapState, mappedCommands, _⟩ pressed
  | toggle pressed toggled => exact follows_toggle ⟨mapState, mappedCommands, _⟩ pressed toggled

theorem reaches_addCommands (m : CommandMapping nc) (s : BitmapScheduler nc ns) :
    Reaches table robot s (m.addCommands table robot s) :=
  reaches_foldl (fun s cmd => Reaches.single s (.addCommand cmd)) _ s

theorem reaches_removeCommands (m : CommandMapping nc) (s : BitmapScheduler nc ns) :
    Reaches table robot s (m.removeCommands table s) :=
  reaches_foldl (fun s cmd => Reaches.single s (.removeCommand cmd false)) _ s

theorem reaches_scheduleHeld (maxTimesToSchedule : ℤ) (cmds : List (Option (Fin nc))) (i : ℕ)
    (rescheduleCounts : List ℤ) (s : BitmapScheduler nc ns) :
    Reaches table robot s
      (scheduleHeld table robot maxTimesToSchedule cmds i rescheduleCounts s).2 := by
  induction cmds generalizing i rescheduleCounts s with
  | nil => exact Reaches.refl s
  | cons cmd cmds ih =>
    rw [scheduleHeld]
    split_ifs
    · exact (Reaches.single s (.addCommand cmd)).trans (ih _ _ _)
    · exact ih _ _ _

/-- A mapping adds commands and removes commands, and does nothing else with the scheduler. -/
theorem reaches_execute (m : CommandMapping nc) (s : BitmapScheduler nc ns)
    (currState : RemoteMapState) :
    Reaches table robot s (m.executeCommandMapping table robot s currState).2 := by
  unfold executeCommandMapping
  cases m.state with
  | hold commandScheduled =>
    dsimp only
    unfold executeHold
    split_ifs
    · exact reaches_addCommands m s
    · exact Reaches.refl s
    · exact reaches_removeCommands m s
    · exact Reaches.refl s
  | holdRepeat held endCommandsWhenNotHeld maxTimesToSchedule rescheduleCounts =>
    dsimp only
    unfold executeHoldRepeat
    split_ifs
    · exact reaches_scheduleHeld maxTimesToSchedule m.mappedCommands 0 rescheduleCounts s
    · exact reaches_removeCommands m s
    · exact Reaches.refl s
    · exact Reaches.refl s
  | press pressed =>
    dsimp only
    unfold executePress
    split_ifs
    · exact reaches_addCommands m s
    · exact Reaches.refl s
    · exact Reaches.refl s
  | toggle pressed toggled =>
    dsimp only
    unfold executeToggle
    dsimp only
    split_ifs
    all_goals first
      | exact Reaches.refl s
      | exact reaches_addCommands m s
      | exact reaches_removeCommands m s

theorem mem_removeNull {cmds : List (Option (Fin nc))} :
    some command ∈ removeNull cmds ↔ some command ∈ cmds := by
  rw [removeNull, List.mem_append, List.mem_filter]
  constructor
  · rintro (⟨hmem, -⟩ | hmem)
    · exact hmem
    · exact List.mem_of_mem_drop hmem
  · exact fun hmem => Or.inl ⟨hmem, rfl⟩

end CommandMapping

/-! ### All mappings -/

/-- A mapping of this class removes the commands that it no longer holds. -/
def MappingClass.ends : MappingClass → Bool
  | .HoldCommandMapping | .ToggleCommandMapping => true
  | .HoldRepeatCommandMapping endCommandsWhenNotHeld _ => endCommandsWhenNotHeld
  | .PressCommandMapping => false

namespace CommandMapper

open BitmapScheduler (mem_of_mem_step construct isCommandScheduled_iff Reaches)
open CommandMapping (mem_removeNull follows_execute reaches_execute)

variable {nc ns : ℕ} {table : SchedulerTable nc ns} {robot : ℕ → Question nc ns → Bool}
  {mapper : CommandMapper nc ns} {command : Fin nc} {event : MapperEvent nc ns} {keys : KeyState}

/-- Nothing but mappings that end it adds the command. -/
def Reserved (command : Fin nc) : MapperEvent nc ns → Prop
  | .addMap cmds _ mappingClass => some command ∈ cmds → mappingClass.ends = true
  | .handleKeyStateChange _ => True
  | .scheduler operation => operation ≠ .addCommand (some command)

/-- The command is scheduled only while one of its mappings holds it. -/
structure Held (command : Fin nc) (maps : List (CommandMapping nc)) (s : BitmapScheduler nc ns) :
    Prop where
  ends : ∀ m ∈ maps, some command ∈ m.mappedCommands → m.state.ends = true
  holder : Mem command s.addedCommandBitmap →
    ∃ m ∈ maps, some command ∈ m.mappedCommands ∧ m.state.holds = true

/-- The mappings that hold their commands ask for what the remote shows, but for toggle mappings. -/
def Shown (currState : RemoteMapState) (maps : List (CommandMapping nc)) : Prop :=
  ∀ m ∈ maps, m.state.holds = true →
    m.state.toggles = true ∨ m.mapState.active currState = true

/-- **The loop over the mappings.**  `Q` says that a mapping that comes before holds the command. -/
theorem held_executeAll (table : SchedulerTable nc ns) (robot : ℕ → Question nc ns → Bool)
    (currState : RemoteMapState) {Q : Prop} :
    ∀ (maps : List (CommandMapping nc)) (s : BitmapScheduler nc ns),
      (∀ m ∈ maps, some command ∈ m.mappedCommands → m.state.ends = true) →
      (Mem command s.addedCommandBitmap →
        Q ∨ ∃ m ∈ maps, some command ∈ m.mappedCommands ∧ m.state.holds = true) →
      let executed := executeAll table robot currState maps s
      (∀ m ∈ executed.1, some command ∈ m.mappedCommands → m.state.ends = true) ∧
        (Mem command executed.2.addedCommandBitmap →
          Q ∨ ∃ m ∈ executed.1, some command ∈ m.mappedCommands ∧ m.state.holds = true) := by
  intro maps
  induction maps generalizing Q with
  | nil => exact fun _ hends hholder => ⟨hends, hholder⟩
  | cons m rest ih =>
    intro s hends hholder
    have hm := follows_execute table robot m s currState
    have hholder' : Mem command
        (m.executeCommandMapping table robot s currState).2.addedCommandBitmap →
        (Q ∨ some command ∈ m.mappedCommands ∧
          (m.executeCommandMapping table robot s currState).1.state.holds = true) ∨
        ∃ m' ∈ rest, some command ∈ m'.mappedCommands ∧ m'.state.holds = true := by
      intro hmem
      rcases hm.added command hmem with hbefore | hadded
      · rcases hholder hbefore with hQ | ⟨m', hm', hin, hholds⟩
        · exact Or.inl (Or.inl hQ)
        · rcases List.mem_cons.1 hm' with rfl | hm'
          · have hends' := hends m' List.mem_cons_self hin
            exact Or.inl (Or.inr ⟨hin, hm.removed command hends' hholds hin hmem⟩)
          · exact Or.inr ⟨m', hm', hin, hholds⟩
      · exact Or.inl (Or.inr hadded)
    obtain ⟨hrest, hheld⟩ := ih (m.executeCommandMapping table robot s currState).2
      (fun m' hm' => hends m' (List.mem_cons_of_mem _ hm')) hholder'
    refine ⟨fun m' hm' hin => ?_, fun hmem => ?_⟩
    · rcases List.mem_cons.1 hm' with rfl | hm'
      · exact hm.ends.trans (hends m List.mem_cons_self (hm.mappedCommands ▸ hin))
      · exact hrest m' hm' hin
    · rcases hheld hmem with (hQ | ⟨hin, hholds⟩) | ⟨m', hm', hin, hholds⟩
      · exact Or.inl hQ
      · exact Or.inr ⟨_, List.mem_cons_self, hm.mappedCommands ▸ hin, hholds⟩
      · exact Or.inr ⟨m', List.mem_cons_of_mem _ hm', hin, hholds⟩

theorem shown_executeAll (currState : RemoteMapState) :
    ∀ (maps : List (CommandMapping nc)) (s : BitmapScheduler nc ns),
      Shown currState (executeAll table robot currState maps s).1 := by
  intro maps
  induction maps with
  | nil => exact fun _ m hm => absurd hm List.not_mem_nil
  | cons m rest ih =>
    intro s m' hm' hholds
    rcases List.mem_cons.1 hm' with rfl | hm'
    · have hm := follows_execute table robot m s currState
      cases htoggles : (m.executeCommandMapping table robot s currState).1.state.toggles with
      | true => exact Or.inl rfl
      | false => exact Or.inr (hm.mapState ▸ hm.active htoggles hholds)
    · exact ih _ m' hm' hholds

/-- A mapping stays the mapping that it is. -/
theorem exists_of_mem_executeAll (currState : RemoteMapState) :
    ∀ (maps : List (CommandMapping nc)) (s : BitmapScheduler nc ns),
      ∀ m' ∈ (executeAll table robot currState maps s).1, ∃ m ∈ maps, m'.mapState = m.mapState ∧
        m'.mappedCommands = m.mappedCommands ∧ m'.state.toggles = m.state.toggles := by
  intro maps
  induction maps with
  | nil => exact fun _ m' hm' => absurd hm' List.not_mem_nil
  | cons m rest ih =>
    intro s m' hm'
    rcases List.mem_cons.1 hm' with rfl | hm'
    · have hm := follows_execute table robot m s currState
      exact ⟨m, List.mem_cons_self, hm.mapState, hm.mappedCommands, hm.toggles⟩
    · obtain ⟨m₀, hm₀, hsame⟩ := ih _ m' hm'
      exact ⟨m₀, List.mem_cons_of_mem _ hm₀, hsame⟩

theorem ends_construct (cmds : List (Option (Fin nc))) (rms : RemoteMapState)
    (mappingClass : MappingClass) :
    (CommandMapping.construct cmds rms mappingClass).state.ends = mappingClass.ends := by
  cases mappingClass <;> rfl

theorem mappedCommands_construct (cmds : List (Option (Fin nc))) (rms : RemoteMapState)
    (mappingClass : MappingClass) :
    (CommandMapping.construct cmds rms mappingClass).mappedCommands =
      CommandMapping.removeNull cmds := by
  cases mappingClass <;> rfl

theorem mapState_construct (cmds : List (Option (Fin nc))) (rms : RemoteMapState)
    (mappingClass : MappingClass) :
    (CommandMapping.construct cmds rms mappingClass).mapState = rms := by
  cases mappingClass <;> rfl

theorem toggles_construct (cmds : List (Option (Fin nc))) (rms : RemoteMapState)
    {mappingClass : MappingClass} (h : mappingClass ≠ .ToggleCommandMapping) :
    (CommandMapping.construct cmds rms mappingClass).state.toggles = false := by
  cases mappingClass with
  | ToggleCommandMapping => exact absurd rfl h
  | _ => rfl

theorem holds_construct (cmds : List (Option (Fin nc))) (rms : RemoteMapState)
    (mappingClass : MappingClass) :
    (CommandMapping.construct cmds rms mappingClass).state.holds = false := by
  cases mappingClass <;> rfl

theorem mem_addMap {mapping m : CommandMapping nc} (h : m ∈ (mapper.addMap mapping).commandsToRun) :
    m ∈ mapper.commandsToRun ∨ m = mapping := by
  unfold addMap at h
  split_ifs at h
  · exact Or.inl h
  · exact (List.mem_append.1 h).imp_right List.mem_singleton.1

theorem mem_addMap_of_mem {mapping m : CommandMapping nc} (h : m ∈ mapper.commandsToRun) :
    m ∈ (mapper.addMap mapping).commandsToRun := by
  unfold addMap
  split_ifs
  · exact h
  · exact List.mem_append_left _ h

theorem commandScheduler_addMap (mapping : CommandMapping nc) :
    (mapper.addMap mapping).commandScheduler = mapper.commandScheduler := by
  unfold addMap
  split_ifs <;> rfl

/-- **One event** keeps that only a mapping holds the command. -/
theorem Held.step (robot : ℕ → Question nc ns → Bool)
    (hdefault : ∀ sub, table.getDefaultCommand sub ≠ some command) (event : MapperEvent nc ns)
    (hevent : Reserved command event)
    (h : Held command mapper.commandsToRun mapper.commandScheduler) :
    Held command (mapper.step table robot event).commandsToRun
      (mapper.step table robot event).commandScheduler := by
  cases event with
  | addMap cmds rms mappingClass =>
    rw [CommandMapper.step, commandScheduler_addMap]
    refine ⟨fun m hm hin => ?_, fun hmem => ?_⟩
    · rcases mem_addMap hm with hm | rfl
      · exact h.ends m hm hin
      · rw [mappedCommands_construct] at hin
        rw [ends_construct]
        exact hevent (mem_removeNull.1 hin)
    · obtain ⟨m, hm, hholds⟩ := h.holder hmem
      exact ⟨m, mem_addMap_of_mem hm, hholds⟩
  | handleKeyStateChange keys =>
    obtain ⟨hends, hholder⟩ := held_executeAll table robot keys.mapstate (Q := False)
      mapper.commandsToRun mapper.commandScheduler h.ends fun hmem =>
        Or.inr (h.holder hmem)
    exact ⟨hends, fun hmem => (or_iff_right id).1 (hholder hmem)⟩
  | scheduler operation =>
    exact ⟨h.ends, fun hmem => h.holder (mem_of_mem_step hdefault hevent hmem)⟩

/-- A new mapping holds nothing yet, and nothing but a change of the keys changes a mapping. -/
theorem Shown.step {currState : RemoteMapState}
    (hother : ∀ keys, event ≠ .handleKeyStateChange keys)
    (h : Shown currState mapper.commandsToRun) :
    Shown currState (mapper.step table robot event).commandsToRun := by
  cases event with
  | addMap cmds rms mappingClass =>
    intro m hm hholds
    rcases mem_addMap hm with hm | rfl
    · exact h m hm hholds
    · rw [holds_construct] at hholds
      exact absurd hholds Bool.false_ne_true
  | handleKeyStateChange keys => exact absurd rfl (hother keys)
  | scheduler operation => exact h

theorem shown_after {currState : RemoteMapState} {later : List (MapperEvent nc ns)}
    (hlater : ∀ event ∈ later, ∀ keys, event ≠ .handleKeyStateChange keys)
    (h : Shown currState mapper.commandsToRun) :
    Shown currState (after (step table robot) mapper later).commandsToRun := by
  induction later generalizing mapper with
  | nil => exact h
  | cons event later ih =>
    exact ih (fun e he => hlater e (List.mem_cons_of_mem _ he))
      (h.step (hlater event List.mem_cons_self))

theorem held_after {events : List (MapperEvent nc ns)}
    (hdefault : ∀ sub, table.getDefaultCommand sub ≠ some command)
    (hevents : ∀ event ∈ events, Reserved command event)
    (h : Held command mapper.commandsToRun mapper.commandScheduler) :
    Held command (after (step table robot) mapper events).commandsToRun
      (after (step table robot) mapper events).commandScheduler := by
  induction events generalizing mapper with
  | nil => exact h
  | cons event events ih =>
    exact ih (fun e he => hevents e (List.mem_cons_of_mem _ he))
      (h.step robot hdefault event (hevents event List.mem_cons_self))

theorem held_start (command : Fin nc) (isMasterScheduler : Bool) :
    Held command [] (construct isMasterScheduler : BitmapScheduler nc ns) :=
  ⟨fun _ hm => absurd hm List.not_mem_nil, fun hmem => absurd hmem not_mem_zero⟩

theorem reaches_executeAll (currState : RemoteMapState) (maps : List (CommandMapping nc))
    (s : BitmapScheduler nc ns) :
    Reaches table robot s (executeAll table robot currState maps s).2 := by
  induction maps generalizing s with
  | nil => exact Reaches.refl s
  | cons m rest ih => exact (reaches_execute m s currState).trans (ih _)

/-- **All that happens to the scheduler** is operations, so what holds in every run of the scheduler
holds with the mapper. -/
theorem exists_operations (table : SchedulerTable nc ns) (robot : ℕ → Question nc ns → Bool)
    (isMasterScheduler : Bool) (events : List (MapperEvent nc ns)) :
    ∃ operations, (after (step table robot) (start isMasterScheduler) events).commandScheduler =
      after (BitmapScheduler.step table robot) (construct isMasterScheduler) operations := by
  have hloop : ∀ (events : List (MapperEvent nc ns)) (mapper : CommandMapper nc ns),
      Reaches table robot mapper.commandScheduler
        (after (step table robot) mapper events).commandScheduler := by
    intro events
    induction events with
    | nil => exact fun mapper => Reaches.refl _
    | cons event events ih =>
      intro mapper
      refine Reaches.trans ?_ (ih _)
      cases event with
      | addMap cmds rms mappingClass =>
        rw [CommandMapper.step, commandScheduler_addMap]
        exact Reaches.refl _
      | handleKeyStateChange keys => exact reaches_executeAll keys.mapstate _ _
      | scheduler operation => exact Reaches.single _ operation
  exact hloop events (start isMasterScheduler)

/-- **A command that only mappings add** is scheduled only while one of them holds it: in every run
and until the keys change again, one of its mappings asks for what the remote shows, or is a toggle
mapping that is on. -/
theorem held_run (table : SchedulerTable nc ns) (robot : ℕ → Question nc ns → Bool)
    (isMasterScheduler : Bool) (command : Fin nc) (before later : List (MapperEvent nc ns))
    (keys : KeyState) (hdefault : ∀ sub, table.getDefaultCommand sub ≠ some command)
    (hbefore : ∀ event ∈ before, Reserved command event)
    (hlater : ∀ event ∈ later, Reserved command event ∧
      ∀ keys, event ≠ .handleKeyStateChange keys) :
    let mapper := after (step table robot) (start isMasterScheduler)
      (before ++ .handleKeyStateChange keys :: later)
    mapper.commandScheduler.isCommandScheduled command = true →
      ∃ m ∈ mapper.commandsToRun, some command ∈ m.mappedCommands ∧ m.state.holds = true ∧
        (m.state.toggles = true ∨ m.mapState.active keys.mapstate = true) := by
  intro mapper hscheduled
  have hmapper : mapper = after (step table robot)
      ((after (step table robot) (start isMasterScheduler) before).handleKeyStateChange table robot
        keys) later := Run.after_append before
  have hheld : Held command mapper.commandsToRun mapper.commandScheduler := by
    refine held_after hdefault (fun event hevent => ?_) (held_start command isMasterScheduler)
    rcases List.mem_append.1 hevent with h | h
    · exact hbefore event h
    · rcases List.mem_cons.1 h with rfl | h
      · trivial
      · exact (hlater event h).1
  have hshown : Shown keys.mapstate mapper.commandsToRun := by
    rw [hmapper]
    exact shown_after (fun event hevent => (hlater event hevent).2)
      (shown_executeAll keys.mapstate _ _)
  obtain ⟨m, hm, hin, hholds⟩ := hheld.holder ((isCommandScheduled_iff table).1 hscheduled)
  exact ⟨m, hm, hin, hholds, hshown m hm hholds⟩

open BitmapScheduler (secondCommand onlySubsystem) in
/-- A command is mapped to a position of the left switch. -/
def mappedSecond : List (MapperEvent 2 1) :=
  [.scheduler (.registerSubsystem (some onlySubsystem)),
    .addMap [some secondCommand] (.ofSwitch .LEFT_SWITCH .UP) .HoldCommandMapping]

/-- The left switch is up. -/
def leftUp : KeyState := ⟨0, .UP, .UNKNOWN, false, false⟩

open BitmapScheduler (secondCommand twoCommands connectedUntil) in
theorem held_run_second :
    (after (step twoCommands (connectedUntil 99)) (start true)
      (mappedSecond ++ .handleKeyStateChange leftUp ::
        [.scheduler .run])).commandScheduler.isCommandScheduled
        secondCommand = true ∧
    ∃ m ∈ (after (step twoCommands (connectedUntil 99)) (start true)
      (mappedSecond ++ .handleKeyStateChange leftUp :: [.scheduler .run])).commandsToRun,
      some secondCommand ∈ m.mappedCommands ∧ m.state.holds = true ∧
        (m.state.toggles = true ∨ m.mapState.active leftUp.mapstate = true) := by
  have hscheduled : (after (step twoCommands (connectedUntil 99)) (start true)
      (mappedSecond ++ .handleKeyStateChange leftUp ::
        [.scheduler .run])).commandScheduler.isCommandScheduled
        secondCommand = true := by decide +kernel
  refine ⟨hscheduled, held_run twoCommands (connectedUntil 99) true secondCommand mappedSecond
    [.scheduler .run] leftUp (by decide) ?_ ?_ hscheduled⟩
  · intro event hevent
    simp only [mappedSecond, List.mem_cons, List.not_mem_nil, or_false] at hevent
    rcases hevent with rfl | rfl
    · exact fun h => nomatch h
    · exact fun _ => rfl
  · intro event hevent
    rw [List.mem_singleton.1 hevent]
    exact ⟨fun h => (nomatch h), fun keys h => (nomatch h)⟩

end CommandMapper

end Aimbots.Tap
