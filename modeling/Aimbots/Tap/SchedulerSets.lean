import Aimbots.Tap.CommandScheduler
import Aimbots.Tap.SchedulerRun
import Mathlib.Data.Finset.Card

/-!
# The scheduler of a comprised command, with its bitmaps

A scheduler that is not the master, is never disconnected and runs no hardware tests does with its
bitmaps what `CommandScheduler` does with sets (`setRun_toSets`): what is proved of the sets holds
of the program.
-/

namespace Aimbots.Tap.BitmapScheduler

open Bitmap
open Run (after Each)

variable {nc ns : ℕ}

/-- What the scheduler asks a command for, with sets, if its commands are always ready or never. -/
def setTable (table : SchedulerTable nc ns) (isReady : Fin nc → Bool) :
    CommandTable (Fin nc) (Fin 64) :=
  ⟨fun command => toFinset 64 (table.getRequirementsBitwise command), isReady⟩

/-- The sets of the bitmaps. -/
def toSets (s : BitmapScheduler nc ns) : CommandScheduler (Fin nc) (Fin 64) :=
  ⟨toFinset 64 s.registeredSubsystemBitmap, toFinset nc s.addedCommandBitmap⟩

/-- What a scheduled command answers when a call of `run()` asks it whether it is finished: the
scheduler asks whether it is disconnected, and then the scheduled commands, by their identifiers. -/
def replies (s : BitmapScheduler nc ns) (robot : ℕ → Question nc ns → Bool) (command : Fin nc) :
    Bool :=
  robot (s.asked + 1 + ((toFinset nc s.addedCommandBitmap).filter (· < command)).card)
    (.isFinished command)

/-- Operations, with what the commands say in each of them. -/
def replied (table : SchedulerTable nc ns) (robot : ℕ → Question nc ns → Bool) :
    BitmapScheduler nc ns → List (Operation nc ns) → List (Operation nc ns × (Fin nc → Bool))
  | _, [] => []
  | s, op :: operations =>
    (op, s.replies robot) :: replied table robot (s.step table robot op) operations

/-- What an operation does with the sets: `run()` removes the commands that say that they are
finished. -/
def SetStep (table : CommandTable (Fin nc) (Fin 64)) (subsystems_le : ns ≤ 64)
    (isFinished : Fin nc → Bool) (t t' : CommandScheduler (Fin nc) (Fin 64)) :
    Operation nc ns → Prop
  | .run => t' = t.removeFinished isFinished
  | .addCommand (some command) => t' = t.addCommand table command
  | .removeCommand (some command) _ => t' = t.removeCommand command
  | .registerSubsystem (some sub) =>
    t' = { t with
      registeredSubsystemBitmap :=
        insert (sub.castLE subsystems_le) t.registeredSubsystemBitmap }
  | .addCommand none | .removeCommand none _ | .registerSubsystem none => t' = t
  | .startHardwareTests | .stopHardwareTests => False

/-- A run with sets, of operations with what the commands say in them. -/
def SetRun (table : CommandTable (Fin nc) (Fin 64)) (subsystems_le : ns ≤ 64) :
    CommandScheduler (Fin nc) (Fin 64) → List (Operation nc ns × (Fin nc → Bool)) →
      CommandScheduler (Fin nc) (Fin 64) → Prop
  | t, [], t' => t' = t
  | t, (op, isFinished) :: operations, t' =>
    ∃ u, SetStep table subsystems_le isFinished t u op ∧
      SetRun table subsystems_le u operations t'

/-- The robot never disconnects the scheduler, and its commands are always ready or never. -/
structure Comprised (robot : ℕ → Question nc ns → Bool) (isReady : Fin nc → Bool) : Prop where
  connected : ∀ n, robot n .safeDisconnected = false
  ready : ∀ n command, robot n (.isReady command) = isReady command

/-- The scheduler of a comprised command. -/
structure Own (table : SchedulerTable nc ns) (s : BitmapScheduler nc ns) : Prop where
  inv : Inv table s
  master : s.isMasterScheduler = false
  tests : s.runningHardwareTests = false

variable {table : SchedulerTable nc ns} {robot : ℕ → Question nc ns → Bool}
  {isReady : Fin nc → Bool} {s s' : BitmapScheduler nc ns} {command : Fin nc}

theorem Own.of_sameRest (h : Own table s) (hinv : Inv table s') (hrest : SameRest s s') :
    Own table s' :=
  ⟨hinv, hrest.master.trans h.master, hrest.tests.trans h.tests⟩

theorem toSets_congr (hregistered : s'.registeredSubsystemBitmap = s.registeredSubsystemBitmap)
    (hadded : s'.addedCommandBitmap = s.addedCommandBitmap) : s'.toSets = s.toSets := by
  rw [toSets, toSets, hregistered, hadded]

theorem toSets_removeCommand (interrupted : Bool) :
    (s.removeCommand table interrupted (some command)).toSets = s.toSets.removeCommand command := by
  refine congrArg₂ CommandScheduler.mk ?_ ?_
  · rw [registered_removeCommand]
    rfl
  · ext c
    rw [mem_toFinset, mem_removeCommand, Finset.mem_erase, Fin.ne_iff_vne]
    exact and_congr_right fun _ => mem_toFinset.symm

/-- Adding a command, with sets. -/
theorem toSets_addCommand (h : Own table s) (hrobot : Comprised robot isReady) :
    (s.addCommand table robot (some command)).toSets =
      s.toSets.addCommand (setTable table isReady) command := by
  have hready : s.next.answer robot (.isReady command) = isReady command := hrobot.ready _ command
  have hconnected : s.answer robot .safeDisconnected = false := hrobot.connected _
  have htests : s.next.runningHardwareTests = false := h.tests
  rw [addCommand, if_neg (hconnected ▸ Bool.false_ne_true), CommandScheduler.addCommand]
  dsimp only
  rw [if_neg (htests ▸ Bool.false_ne_true), hready]
  by_cases hnot : isReady command = false
  · have hset : (setTable table isReady).isReady command = false := hnot
    rw [if_pos hset, hnot]
    rfl
  · have hset : ¬ (setTable table isReady).isReady command = false := hnot
    rw [if_neg hset, Bool.eq_true_of_not_eq_false hnot, Bool.not_true, if_neg Bool.false_ne_true]
    have hrefused : (table.getRequirementsBitwise command &&&
        s.next.next.registeredSubsystemBitmap ≠
        table.getRequirementsBitwise command ∨ table.getRequirementsBitwise command = 0) ↔
        (¬ (setTable table isReady).getRequirementsBitwise command ⊆
          s.toSets.registeredSubsystemBitmap ∨
            (setTable table isReady).getRequirementsBitwise command = ∅) :=
      or_congr (not_congr toFinset_subset_iff.symm) toFinset_eq_empty_iff.symm
    by_cases hadd : ¬ (setTable table isReady).getRequirementsBitwise command ⊆
        s.toSets.registeredSubsystemBitmap ∨
          (setTable table isReady).getRequirementsBitwise command = ∅
    · rw [if_pos hadd, if_pos (hrefused.2 hadd)]
      rfl
    · rw [if_neg hadd, if_neg fun hr => hadd (hrefused.1 hr)]
      have hspec := interrupt_spec h.inv.next.next (table.getRequirementsBitwise command)
      refine congrArg₂ CommandScheduler.mk ?_ ?_
      · exact congrArg (toFinset 64) hspec.2.1.registered
      · ext other
        rw [mem_toFinset, Finset.mem_insert, Finset.mem_filter]
        refine (mem_begin h.inv.next.next command other).trans (or_congr_right ?_)
        exact and_congr mem_toFinset.symm toFinset_inter_eq_empty_iff.symm

theorem toSets_registerSubsystem (table : SchedulerTable nc ns) (sub : Fin ns) :
    (s.registerSubsystem (some sub)).toSets =
      { s.toSets with
        registeredSubsystemBitmap :=
          insert (sub.castLE table.subsystems_le) s.toSets.registeredSubsystemBitmap } := by
  have hinsert : toFinset 64 (s.registeredSubsystemBitmap ||| oneHot 64 sub) =
      insert (sub.castLE table.subsystems_le) (toFinset 64 s.registeredSubsystemBitmap) := by
    ext i
    rw [mem_toFinset, mem_insert (table.subsystem_lt sub), Finset.mem_insert, mem_toFinset,
      Fin.ext_iff]
    rfl
  unfold registerSubsystem
  dsimp only
  split_ifs with hregistered
  · have hmem : Mem sub s.registeredSubsystemBitmap := by
      rw [isSubsystemRegistered, decide_eq_true_iff, BitVec.and_comm,
        and_oneHot_ne_zero_iff (table.subsystem_lt sub)] at hregistered
      exact hregistered
    have hin : sub.castLE table.subsystems_le ∈ toFinset 64 s.registeredSubsystemBitmap :=
      mem_toFinset.2 hmem
    exact (congrArg (CommandScheduler.mk · _) (Finset.insert_eq_of_mem hin)).symm
  · exact congrArg (CommandScheduler.mk · _) hinsert

theorem mem_executeCommand_self :
    Mem command (s.executeCommand table robot command).addedCommandBitmap ↔
    s.answer robot (.isFinished command) = false ∧ Mem command s.addedCommandBitmap := by
  have hanswer : (s.call (.execute command)).answer robot (.isFinished command) =
      s.answer robot (.isFinished command) := rfl
  unfold executeCommand
  dsimp only
  rw [hanswer]
  cases s.answer robot (.isFinished command) with
  | true =>
    rw [if_pos rfl, mem_removeCommand]
    exact iff_of_false (fun h => h.1 rfl) fun h => Bool.noConfusion h.1
  | false =>
    rw [if_neg Bool.false_ne_true]
    exact (and_iff_right rfl).symm

theorem asked_executeCommand : (s.executeCommand table robot command).asked = s.asked + 1 := by
  unfold executeCommand
  dsimp only
  split_ifs
  · rw [asked_removeCommand]
    rfl
  · rfl

/-- Where the loop over the commands is: those behind it have been asked, each one once and by their
identifiers, and are scheduled still unless they have said that they are finished. -/
structure Asked (robot : ℕ → Question nc ns → Bool) (s : BitmapScheduler nc ns)
    (rest : List (Fin nc)) (s' : BitmapScheduler nc ns) : Prop where
  sorted : rest.Pairwise (· < ·)
  before : ∀ c ∈ rest, ∀ d, d ∉ rest → d < c
  same : SameRest s s'
  asked : s'.asked =
    s.asked + 1 + ((toFinset nc s.addedCommandBitmap).filter (· ∉ rest)).card
  added : ∀ c : Fin nc, Mem c s'.addedCommandBitmap ↔
    Mem c s.addedCommandBitmap ∧ (c ∈ rest ∨ s.replies robot c = false)

theorem Asked.before_tail {it : Fin nc} {rest : List (Fin nc)} (h : Asked robot s (it :: rest) s') :
    ∀ c ∈ rest, ∀ d, d ∉ rest → d < c := by
  intro c hc d hd
  by_cases heq : d = it
  · exact heq ▸ List.rel_of_pairwise_cons h.sorted hc
  · exact h.before c (List.mem_cons_of_mem _ hc) d (by rw [List.mem_cons, not_or]; exact ⟨heq, hd⟩)

/-- The commands that have been asked before one are those below it. -/
theorem Asked.filter_eq {it : Fin nc} {rest : List (Fin nc)} (h : Asked robot s (it :: rest) s') :
    (toFinset nc s.addedCommandBitmap).filter (· ∉ it :: rest) =
      (toFinset nc s.addedCommandBitmap).filter (· < it) := by
  refine Finset.filter_congr fun c _ => ⟨h.before it List.mem_cons_self c, fun hlt hmem => ?_⟩
  rcases List.mem_cons.1 hmem with rfl | hmem
  · exact lt_irrefl _ hlt
  · exact lt_asymm hlt (List.rel_of_pairwise_cons h.sorted hmem)

/-- A command that is not scheduled is not asked. -/
theorem Asked.skip {it : Fin nc} {rest : List (Fin nc)} (h : Asked robot s (it :: rest) s')
    (hnot : ¬ Mem it s'.addedCommandBitmap) : Asked robot s rest s' := by
  have hnever : ¬ Mem it s.addedCommandBitmap :=
    fun hmem => hnot ((h.added it).2 ⟨hmem, Or.inl List.mem_cons_self⟩)
  have hne : ∀ c : Fin nc, Mem c s.addedCommandBitmap → c ≠ it := by
    rintro c hc rfl
    exact hnever hc
  refine ⟨h.sorted.of_cons, h.before_tail, h.same, ?_, fun c => (h.added c).trans ?_⟩
  · rw [h.asked]
    refine congrArg (fun asked : Finset (Fin nc) => s.asked + 1 + asked.card)
      (Finset.filter_congr fun c hc => ?_)
    rw [List.mem_cons, or_iff_right (hne c (mem_toFinset.1 hc))]
  · refine and_congr_right fun hc => ?_
    rw [List.mem_cons, or_iff_right (hne c hc)]

/-- A command that is scheduled is asked, and removed if it says that it is finished. -/
theorem Asked.body {it : Fin nc} {rest : List (Fin nc)} (h : Asked robot s (it :: rest) s')
    (hit : Mem it s'.addedCommandBitmap) :
    Asked robot s rest (s'.executeCommand table robot it) := by
  have hmem : Mem it s.addedCommandBitmap := ((h.added it).1 hit).1
  have hnotin : it ∉ rest := fun hin => lt_irrefl _ (List.rel_of_pairwise_cons h.sorted hin)
  have hanswer : s'.answer robot (.isFinished it) = s.replies robot it := by
    rw [answer, replies, h.asked, h.filter_eq]
  have hfilter : (toFinset nc s.addedCommandBitmap).filter (· ∉ rest) =
      insert it ((toFinset nc s.addedCommandBitmap).filter (· ∉ it :: rest)) := by
    ext c
    rw [Finset.mem_filter, Finset.mem_insert, Finset.mem_filter, List.mem_cons, not_or]
    by_cases heq : c = it
    · rw [heq]
      exact iff_of_true ⟨mem_toFinset.2 hmem, hnotin⟩ (Or.inl rfl)
    · rw [or_iff_right heq, and_iff_right heq]
  have hnew : it ∉ (toFinset nc s.addedCommandBitmap).filter (· ∉ it :: rest) :=
    fun hin => (Finset.mem_filter.1 hin).2 List.mem_cons_self
  refine ⟨h.sorted.of_cons, h.before_tail, h.same.trans sameRest_executeCommand, ?_, fun c => ?_⟩
  · rw [asked_executeCommand, h.asked, hfilter, Finset.card_insert_of_notMem hnew, Nat.add_assoc]
  · by_cases heq : c = it
    · subst heq
      rw [mem_executeCommand_self, hanswer, h.added, and_comm, and_assoc]
      refine and_congr_right fun _ => ?_
      rw [and_iff_right (Or.inl List.mem_cons_self), or_iff_right hnotin]
    · rw [mem_executeCommand (Fin.val_ne_of_ne heq), h.added, List.mem_cons, or_iff_right heq]

/-- **The loop over the commands** removes those that say that they are finished. -/
theorem toSets_runCommands (table : SchedulerTable nc ns)
    (hconnected : s.answer robot .safeDisconnected = false) :
    (s.runCommands table robot).toSets = s.toSets.removeFinished (s.replies robot) := by
  rw [runCommands, hconnected, if_neg Bool.false_ne_true]
  have hloop : Asked robot s [] (s.next.forEachCommand (executeCommand table robot)) := by
    refine forEach_induct addedCommandBitmap (executeCommand table robot) s.next table.commands_le
      (P := Asked robot s) (fun _ _ _ _ h hnot => h.skip hnot) (fun _ _ _ _ h hit => h.body hit) ?_
    refine ⟨List.pairwise_lt_finRange nc, fun c _ d hd => absurd (List.mem_finRange d) hd,
      ⟨rfl, rfl, rfl⟩, ?_, fun c => (and_iff_left (Or.inl (List.mem_finRange c))).symm⟩
    rw [Finset.filter_false_of_mem fun c _ => not_not.2 (List.mem_finRange c)]
    rfl
  refine congrArg₂ CommandScheduler.mk (congrArg (toFinset 64) hloop.same.registered) ?_
  ext c
  rw [mem_toFinset, Finset.mem_filter, Bool.not_eq_true']
  refine (hloop.added c).trans (and_congr mem_toFinset.symm ?_)
  exact or_iff_right List.not_mem_nil

theorem sameRest_checkRuntime : SameRest s (s.checkRuntime robot) := by
  unfold checkRuntime
  split_ifs <;> exact ⟨rfl, rfl, rfl⟩

/-- What `run()` of a comprised command's scheduler does. -/
theorem run_eq_checkRuntime (h : Own table s) :
    s.run table robot = (s.runCommands table robot).checkRuntime robot := by
  have hmaster : (s.runCommands table robot).isMasterScheduler = false :=
    sameRest_runCommands.master.trans h.master
  rw [run, if_neg (h.tests ▸ Bool.false_ne_true), runSubsystems,
    if_neg (hmaster ▸ Bool.false_ne_true)]

/-- **One operation**: the bitmaps do what the sets do. -/
theorem setStep_toSets (h : Own table s) (hrobot : Comprised robot isReady) {op : Operation nc ns}
    (hop : op ≠ .startHardwareTests ∧ op ≠ .stopHardwareTests) :
    SetStep (setTable table isReady) table.subsystems_le (s.replies robot) s.toSets
        (s.step table robot op).toSets op ∧
      Own table (s.step table robot op) := by
  have hinv := h.inv.step robot op
  cases op with
  | run =>
    have hsets := toSets_runCommands table (s := s) (hrobot.connected _)
    have hcheck : ((s.runCommands table robot).checkRuntime robot).toSets =
        (s.runCommands table robot).toSets := by
      unfold checkRuntime
      split_ifs <;> rfl
    refine ⟨?_, h.of_sameRest hinv ?_⟩
    · exact (congrArg toSets (run_eq_checkRuntime h)).trans (hcheck.trans hsets)
    · rw [BitmapScheduler.step, run_eq_checkRuntime h]
      exact sameRest_runCommands.trans sameRest_checkRuntime
  | addCommand commandToAdd =>
    refine ⟨?_, h.of_sameRest hinv (sameRest_addCommand h.inv robot commandToAdd)⟩
    cases commandToAdd with
    | none =>
      have hidle := (addCommand_cases table robot s none).resolve_right (by
        rintro ⟨command, hnone, -⟩
        exact Option.some_ne_none command hnone.symm)
      exact toSets_congr hidle.rest.registered hidle.added
    | some command => exact toSets_addCommand h hrobot
  | removeCommand command interrupted =>
    refine ⟨?_, h.of_sameRest hinv (sameRest_removeCommand s command)⟩
    cases command with
    | none => rfl
    | some command => exact toSets_removeCommand interrupted
  | registerSubsystem subsystem =>
    cases subsystem with
    | none => exact ⟨rfl, h.inv.neutral trivial, h.master, h.tests⟩
    | some sub =>
      refine ⟨toSets_registerSubsystem table sub, hinv, ?_, ?_⟩
      · rw [BitmapScheduler.step, registerSubsystem]
        split_ifs <;> exact h.master
      · rw [BitmapScheduler.step, registerSubsystem]
        split_ifs <;> exact h.tests
  | startHardwareTests => exact absurd rfl hop.1
  | stopHardwareTests => exact absurd rfl hop.2

/-- **The bitmaps refine the sets**: every run of the scheduler of a comprised command is a run of
`CommandScheduler`, in which the same commands are scheduled and each call of `run()` removes
exactly the commands that say in it that they are finished. -/
theorem setRun_toSets (table : SchedulerTable nc ns) (robot : ℕ → Question nc ns → Bool)
    (isReady : Fin nc → Bool) (hrobot : Comprised robot isReady)
    (operations : List (Operation nc ns))
    (hoperations : ∀ op ∈ operations, op ≠ .startHardwareTests ∧ op ≠ .stopHardwareTests) :
    SetRun (setTable table isReady) table.subsystems_le ⟨∅, ∅⟩
        (replied table robot (construct false) operations)
        (after (step table robot) (construct false) operations).toSets ∧
      ∀ command, (after (step table robot) (construct false) operations).toSets.isCommandScheduled
          command =
        (after (step table robot) (construct false) operations).isCommandScheduled command := by
  have hrun : ∀ (operations : List (Operation nc ns)) (s : BitmapScheduler nc ns), Own table s →
      (∀ op ∈ operations, op ≠ .startHardwareTests ∧ op ≠ .stopHardwareTests) →
        SetRun (setTable table isReady) table.subsystems_le s.toSets
          (replied table robot s operations)
          (after (step table robot) s operations).toSets := by
    intro operations
    induction operations with
    | nil => exact fun _ _ _ => rfl
    | cons op operations ih =>
      intro s hs hops
      obtain ⟨hstep, hnext⟩ := setStep_toSets hs hrobot (hops op List.mem_cons_self)
      exact ⟨_, hstep, ih _ hnext fun op' hop' => hops op' (List.mem_cons_of_mem _ hop')⟩
  have hempty : (construct false : BitmapScheduler nc ns).toSets = ⟨∅, ∅⟩ := by
    refine congrArg₂ CommandScheduler.mk ?_ ?_
    · exact toFinset_eq_empty_iff.2 rfl
    · ext c
      rw [mem_toFinset]
      exact iff_of_false not_mem_zero (Finset.notMem_empty c)
  refine ⟨hempty ▸ hrun operations _ ⟨inv_construct false, rfl, rfl⟩ hoperations, fun command => ?_⟩
  rw [Bool.eq_iff_iff, CommandScheduler.isCommandScheduled_iff, isCommandScheduled_iff table]
  exact mem_toFinset

/-- A robot that is connected, and whose first command never finishes. -/
def finishing : ℕ → Question 2 1 → Bool :=
  fun _ question => decide (question ≠ .safeDisconnected ∧ question ≠ .isFinished firstCommand)

/-- Two commands of a subsystem are added; the one that finishes is removed. -/
def twoOperations : List (Operation 2 1) :=
  [.registerSubsystem (some onlySubsystem), .addCommand (some secondCommand), .run,
    .addCommand (some firstCommand), .run]

theorem setRun_toSets_two :
    SetRun (setTable twoCommands fun _ => true) twoCommands.subsystems_le ⟨∅, ∅⟩
        (replied twoCommands finishing (construct false) twoOperations)
        (after (step twoCommands finishing) (construct false) twoOperations).toSets ∧
      ∀ command, (after (step twoCommands finishing) (construct false)
          twoOperations).toSets.isCommandScheduled command =
        (after (step twoCommands finishing) (construct false) twoOperations).isCommandScheduled
          command := by
  have hready : ∀ n command, finishing n (.isReady command) = true :=
    fun _ _ => by simp [finishing]
  exact setRun_toSets twoCommands finishing (fun _ => true) ⟨fun _ => rfl, hready⟩ twoOperations
    (by decide)

end Aimbots.Tap.BitmapScheduler
