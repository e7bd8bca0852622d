import Aimbots.Tap.SchedulerLifecycle
import Mathlib.Data.List.Count

/-!
# What a call of `run()` does

In every state of every run, a call of `run()` executes each scheduled command once and refreshes
each registered subsystem once (`count_run`).  While the robot is disconnected, `run()` ends all
commands, and nothing is begun, executed or refreshed until it is connected again
(`disconnected_run`).  While it is connected, a subsystem with a default command has a command after
`run()` (`default_run`).
-/

namespace Aimbots.Tap.BitmapScheduler

open Bitmap
open Run (after Each)

variable {nc ns : ℕ} {table : SchedulerTable nc ns} {robot : ℕ → Question nc ns → Bool}
  {s : BitmapScheduler nc ns} {command : Fin nc} {sub : Fin ns} {k : Call nc ns}

/-- A call that adding and removing commands never makes. -/
def Other : Call nc ns → Prop
  | .initializeCommand _ | .endCommand _ _ | .RAISE_ERROR _ => False
  | _ => True

theorem count_call_of_ne {k' : Call nc ns} (h : k' ≠ k) :
    (s.call k').calls.count k = s.calls.count k := by
  rw [call, List.count_append, List.count_singleton, if_neg (by simpa using h)]
  rfl

theorem count_call_self : (s.call k).calls.count k = s.calls.count k + 1 := by
  rw [call, List.count_append, List.count_singleton_self]

theorem count_removeCommand (hk : Other k) (interrupted : Bool) (command : Option (Fin nc)) :
    (s.removeCommand table interrupted command).calls.count k = s.calls.count k := by
  cases command with
  | none => exact count_call_of_ne (by rintro rfl; exact hk)
  | some command =>
    rw [removeCommand]
    split_ifs
    · rfl
    · exact count_call_of_ne (by rintro rfl; exact hk)

theorem count_interrupt (hk : Other k) (requirements : SchedulerBitmap) :
    (s.interrupt table requirements).calls.count k = s.calls.count k := by
  refine forEach_inv table.commands_le
    (P := fun s' : BitmapScheduler nc ns => s'.calls.count k = s.calls.count k)
    (fun it s' hs' _ => ?_) rfl
  split_ifs
  · exact (count_removeCommand hk true (some it)).trans hs'
  · exact hs'

theorem count_addCommand (hk : Other k) (commandToAdd : Option (Fin nc)) :
    (s.addCommand table robot commandToAdd).calls.count k = s.calls.count k := by
  rcases addCommand_cases table robot s commandToAdd with hidle | ⟨command, -, -, -, -, heq⟩
  · rcases hidle.calls with hcalls | ⟨text, hcalls⟩
    · rw [hcalls]
    · rw [hcalls]
      exact count_call_of_ne (by rintro rfl; exact hk)
  · rw [heq]
    exact (count_call_of_ne (by rintro rfl; exact hk)).trans (count_interrupt hk _)

/-! ### The commands -/

theorem count_executeCommand_self :
    (s.executeCommand table robot command).calls.count (.execute command) =
      s.calls.count (.execute command) + 1 := by
  unfold executeCommand
  dsimp only
  split_ifs
  · exact (count_removeCommand (k := .execute command) trivial false _).trans count_call_self
  · exact count_call_self

theorem count_executeCommand_of_ne (hk : Other k) (hne : .execute command ≠ k) :
    (s.executeCommand table robot command).calls.count k = s.calls.count k := by
  unfold executeCommand
  dsimp only
  split_ifs
  · exact (count_removeCommand hk false _).trans (count_call_of_ne hne)
  · exact count_call_of_ne hne

theorem mem_executeCommand {i : ℕ} (hne : i ≠ command) :
    Mem i (s.executeCommand table robot command).addedCommandBitmap ↔
      Mem i s.addedCommandBitmap := by
  unfold executeCommand
  dsimp only
  split_ifs
  · exact mem_removeCommand.trans (and_iff_right hne)
  · exact Iff.rfl

/-- **The loop over the commands** executes those that are scheduled, once. -/
theorem count_execute_runCommands (hconnected : s.answer robot .safeDisconnected = false) :
    (s.runCommands table robot).calls.count (.execute command) =
      s.calls.count (.execute command) +
        if Mem command s.addedCommandBitmap then 1 else 0 := by
  rw [runCommands, hconnected, if_neg Bool.false_ne_true]
  have hloop := forEach_induct addedCommandBitmap (executeCommand table robot) s.next
    table.commands_le
    (P := fun rest s' => (∀ c ∈ rest, Mem c.val s'.addedCommandBitmap ↔
        Mem c.val s.addedCommandBitmap) ∧
      s'.calls.count (.execute command) = s.calls.count (.execute command) +
        if Mem command s.addedCommandBitmap ∧ command ∉ rest then 1 else 0) ?_ ?_ ?_
  · refine hloop.2.trans ?_
    simp
  · rintro it rest s' - ⟨hmem, hcount⟩ hnot
    refine ⟨fun c hc => hmem c (List.mem_cons_of_mem _ hc), hcount.trans ?_⟩
    have hit := (not_congr (hmem it List.mem_cons_self)).1 hnot
    congr 1
    refine if_congr (and_congr_right fun hc => ?_) rfl rfl
    rw [List.mem_cons, or_iff_right]
    rintro rfl
    exact hit hc
  · rintro it rest s' hnodup ⟨hmem, hcount⟩ hit
    have hnotin := (List.nodup_cons.1 hnodup).1
    refine ⟨fun c hc => ?_, ?_⟩
    · have hne : c.val ≠ it.val := fun heq => hnotin (Fin.ext heq ▸ hc)
      exact (mem_executeCommand hne).trans (hmem c (List.mem_cons_of_mem _ hc))
    · by_cases heq : it = command
      · subst heq
        rw [count_executeCommand_self, hcount, if_neg fun h => h.2 List.mem_cons_self,
          if_pos ⟨(hmem it List.mem_cons_self).1 hit, hnotin⟩]
      · have hne : Call.execute it ≠ (.execute command : Call nc ns) := fun h =>
          heq (Call.execute.inj h)
        rw [count_executeCommand_of_ne (k := .execute command) trivial hne, hcount]
        congr 1
        refine if_congr (and_congr_right fun _ => ?_) rfl rfl
        rw [List.mem_cons, or_iff_right (Ne.symm heq)]
  · exact ⟨fun c _ => Iff.rfl, by simp [next]⟩

theorem count_runCommands_of_disconnected (hk : Other k)
    (hdisconnected : s.answer robot .safeDisconnected = true) :
    (s.runCommands table robot).calls.count k = s.calls.count k := by
  rw [runCommands, if_pos hdisconnected]
  exact forEach_inv table.commands_le
    (P := fun s' : BitmapScheduler nc ns => s'.calls.count k = s.calls.count k)
    (fun it s' hs' _ => (count_removeCommand hk true (some it)).trans hs') rfl

theorem count_runCommands (hk : Other k) (hne : ∀ command, .execute command ≠ k) :
    (s.runCommands table robot).calls.count k = s.calls.count k := by
  cases hanswer : s.answer robot .safeDisconnected with
  | true => exact count_runCommands_of_disconnected hk hanswer
  | false =>
    rw [runCommands, if_neg (hanswer ▸ Bool.false_ne_true)]
    exact forEach_inv table.commands_le
      (P := fun s' : BitmapScheduler nc ns => s'.calls.count k = s.calls.count k)
      (fun it s' hs' _ => (count_executeCommand_of_ne hk (hne it)).trans hs') rfl

/-! ### The subsystems -/

/-- How often a subsystem has been refreshed, either way. -/
def refreshes (s : BitmapScheduler nc ns) (sub : Fin ns) : ℕ :=
  s.calls.count (.refresh sub) + s.calls.count (.refreshSafeDisconnect sub)

theorem refreshes_eq_of_count {s' : BitmapScheduler nc ns}
    (h : ∀ k : Call nc ns, Other k → (∀ command, .execute command ≠ k) →
      s'.calls.count k = s.calls.count k) (sub : Fin ns) : s'.refreshes sub = s.refreshes sub := by
  have hrefresh := h (.refresh sub) trivial (fun _ hne => by cases hne)
  have hsafe := h (.refreshSafeDisconnect sub) trivial (fun _ hne => by cases hne)
  rw [refreshes, hrefresh, hsafe, refreshes]

theorem refreshes_call_refresh (s : BitmapScheduler nc ns) (sub : Fin ns) (disconnected : Bool)
    (it : Fin ns) :
    (s.call (if disconnected then .refreshSafeDisconnect it else .refresh it)).refreshes sub =
      s.refreshes sub + if it = sub then 1 else 0 := by
  unfold refreshes call
  by_cases heq : it = sub
  · subst heq
    cases disconnected <;> simp [List.count_append] <;> omega
  · cases disconnected <;> simp [List.count_append, heq]

theorem refreshes_refreshSubsystem (it : Fin ns) :
    (s.refreshSubsystem table robot it).refreshes sub =
      s.refreshes sub + if it = sub then 1 else 0 := by
  have hrefresh := refreshes_call_refresh s.next sub (s.answer robot .safeDisconnected) it
  unfold refreshSubsystem
  generalize s.next.call (if s.answer robot .safeDisconnected then .refreshSafeDisconnect it
    else .refresh it) = refreshed at hrefresh
  refine Eq.trans ?_ hrefresh
  dsimp only
  split_ifs
  · exact refreshes_eq_of_count (fun k hk _ => count_addCommand hk _) sub
  · rfl

theorem refreshes_testSubsystem (it : Fin ns) :
    (s.testSubsystem robot it).refreshes sub = s.refreshes sub + if it = sub then 1 else 0 := by
  unfold testSubsystem
  refine (refreshes_call_refresh _ sub false it).trans ?_
  congr 1
  split_ifs
  · rfl
  · rw [refreshes, count_call_of_ne (fun h => by cases h), count_call_of_ne (fun h => by cases h)]
    rfl

/-- **A loop over the subsystems** whose body refreshes its subsystem, refreshes those that are
registered, once. -/
theorem refreshes_forEachSubsystem (table : SchedulerTable nc ns)
    {body : BitmapScheduler nc ns → Fin ns → BitmapScheduler nc ns}
    (hbody : ∀ s it, Inv table s → Inv table (body s it) ∧ SameRest s (body s it) ∧
      ∀ sub, (body s it).refreshes sub = s.refreshes sub + if it = sub then 1 else 0)
    (h : Inv table s) (sub : Fin ns) :
    (s.forEachSubsystem body).refreshes sub =
      s.refreshes sub + if Mem sub s.registeredSubsystemBitmap then 1 else 0 := by
  have hloop := forEach_induct registeredSubsystemBitmap body s table.subsystems_le
    (P := fun rest s' => Inv table s' ∧ SameRest s s' ∧ s'.refreshes sub = s.refreshes sub +
      if Mem sub s.registeredSubsystemBitmap ∧ sub ∉ rest then 1 else 0) ?_ ?_ ?_
  · refine hloop.2.2.trans ?_
    simp
  · rintro it rest s' - ⟨hinv, hrest, hcount⟩ hnot
    rw [hrest.registered] at hnot
    refine ⟨hinv, hrest, hcount.trans ?_⟩
    congr 1
    refine if_congr (and_congr_right fun hsub => ?_) rfl rfl
    rw [List.mem_cons, or_iff_right]
    rintro rfl
    exact hnot hsub
  · rintro it rest s' hnodup ⟨hinv, hrest, hcount⟩ hit
    rw [hrest.registered] at hit
    obtain ⟨hinv', hrest', hrefresh⟩ := hbody s' it hinv
    refine ⟨hinv', hrest.trans hrest', ?_⟩
    rw [hrefresh, hcount]
    by_cases heq : it = sub
    · subst heq
      rw [if_neg fun h => h.2 List.mem_cons_self, if_pos rfl,
        if_pos ⟨hit, (List.nodup_cons.1 hnodup).1⟩]
    · rw [if_neg heq, Nat.add_zero]
      congr 1
      refine if_congr (and_congr_right fun _ => ?_) rfl rfl
      rw [List.mem_cons, or_iff_right (Ne.symm heq)]
  · exact ⟨h, SameRest.refl s, by simp⟩

theorem sameRest_refreshSubsystem (h : Inv table s) (it : Fin ns) :
    SameRest s (s.refreshSubsystem table robot it) := by
  have hrefresh : Inv table (s.next.call
      (if s.answer robot .safeDisconnected then .refreshSafeDisconnect it else .refresh it)) ∧
      SameRest s (s.next.call
        (if s.answer robot .safeDisconnected then .refreshSafeDisconnect it else .refresh it)) := by
    refine ⟨h.next.neutral ?_, ⟨rfl, rfl, rfl⟩⟩
    split_ifs <;> trivial
  unfold refreshSubsystem
  generalize s.next.call (if s.answer robot .safeDisconnected then .refreshSafeDisconnect it
    else .refresh it) = refreshed at hrefresh
  obtain ⟨hinv, hrest⟩ := hrefresh
  have hnext : SameRest refreshed refreshed.next := ⟨rfl, rfl, rfl⟩
  dsimp only
  split_ifs
  · exact (hrest.trans hnext).trans (sameRest_addCommand hinv.next robot _)
  · exact hrest.trans hnext

theorem sameRest_executeCommand : SameRest s (s.executeCommand table robot command) := by
  have hcall : SameRest s (s.call (.execute command)).next := ⟨rfl, rfl, rfl⟩
  unfold executeCommand
  dsimp only
  split_ifs
  · exact hcall.trans (sameRest_removeCommand _ _)
  · exact hcall

theorem sameRest_runCommands : SameRest s (s.runCommands table robot) := by
  have hnext : SameRest s s.next := ⟨rfl, rfl, rfl⟩
  unfold runCommands
  split_ifs
  · exact forEach_inv table.commands_le (P := fun s' => SameRest s s')
      (fun it s' hs' _ => hs'.trans (sameRest_removeCommand s' _)) hnext
  · exact forEach_inv table.commands_le (P := fun s' => SameRest s s')
      (fun it s' hs' _ => hs'.trans sameRest_executeCommand) hnext

theorem count_checkRuntime (hk : Other k) :
    (s.checkRuntime robot).calls.count k = s.calls.count k := by
  unfold checkRuntime
  split_ifs
  · exact count_call_of_ne (by rintro rfl; exact hk)
  · rfl

/-- Refreshing a subsystem executes no command. -/
theorem count_execute_refreshSubsystem (it : Fin ns) :
    (s.refreshSubsystem table robot it).calls.count (.execute command) =
      s.calls.count (.execute command) := by
  have hrefresh : (s.next.call (if s.answer robot .safeDisconnected then .refreshSafeDisconnect it
      else .refresh it)).calls.count (.execute command) = s.calls.count (.execute command) :=
    count_call_of_ne (by split_ifs <;> exact fun h => by cases h)
  unfold refreshSubsystem
  generalize s.next.call (if s.answer robot .safeDisconnected then .refreshSafeDisconnect it
    else .refresh it) = refreshed at hrefresh
  refine Eq.trans ?_ hrefresh
  dsimp only
  split_ifs
  · exact count_addCommand (k := .execute command) trivial _
  · rfl

theorem count_execute_testSubsystem (it : Fin ns) :
    (s.testSubsystem robot it).calls.count (.execute command) =
      s.calls.count (.execute command) := by
  unfold testSubsystem
  refine (count_call_of_ne fun h => by cases h).trans ?_
  split_ifs
  · rfl
  · exact count_call_of_ne fun h => by cases h

theorem count_execute_forEachSubsystem
    {body : BitmapScheduler nc ns → Fin ns → BitmapScheduler nc ns}
    (hbody : ∀ s it, (body s it).calls.count (.execute command) =
      s.calls.count (.execute command)) (table : SchedulerTable nc ns) :
    (s.forEachSubsystem body).calls.count (.execute command) =
      s.calls.count (.execute command) :=
  forEach_inv table.subsystems_le
    (P := fun s' : BitmapScheduler nc ns => s'.calls.count (.execute command) =
      s.calls.count (.execute command))
    (fun it s' hs' _ => (hbody s' it).trans hs') rfl

/-- **One call of `run()`** executes the commands that are scheduled, once. -/
theorem count_execute_run (table : SchedulerTable nc ns) :
    (s.run table robot).calls.count (.execute command) =
      s.calls.count (.execute command) +
        if s.runningHardwareTests = false ∧ s.answer robot .safeDisconnected = false ∧
          Mem command s.addedCommandBitmap then 1 else 0 := by
  unfold run
  cases htests : s.runningHardwareTests with
  | true =>
    rw [if_pos rfl, if_neg fun h => Bool.noConfusion h.1]
    exact count_execute_forEachSubsystem (fun s' it => count_execute_testSubsystem it) table
  | false =>
    rw [if_neg Bool.false_ne_true, count_checkRuntime (k := .execute command) trivial,
      runSubsystems]
    have hsubsystems : ∀ s' : BitmapScheduler nc ns,
        (if s'.isMasterScheduler then s'.forEachSubsystem (refreshSubsystem table robot)
          else s').calls.count (.execute command) = s'.calls.count (.execute command) := by
      intro s'
      split_ifs
      · exact count_execute_forEachSubsystem (fun s' it => count_execute_refreshSubsystem it) table
      · rfl
    rw [hsubsystems]
    cases hanswer : s.answer robot .safeDisconnected with
    | true =>
      rw [count_runCommands_of_disconnected (k := .execute command) trivial hanswer,
        if_neg fun h => Bool.noConfusion h.2.1]
      rfl
    | false =>
      rw [count_execute_runCommands hanswer]
      congr 1
      exact if_congr (by simp) rfl rfl

/-- **One call of `run()`** refreshes the subsystems that are registered, once. -/
theorem refreshes_run (h : Inv table s) :
    (s.run table robot).refreshes sub = s.refreshes sub +
      if (s.runningHardwareTests = true ∨ s.isMasterScheduler = true) ∧
        Mem sub s.registeredSubsystemBitmap then 1 else 0 := by
  unfold run
  cases htests : s.runningHardwareTests with
  | true =>
    rw [if_pos rfl, refreshes_forEachSubsystem table
      (fun s' it h' => ⟨h'.testSubsystem robot it, ?_, fun _ => refreshes_testSubsystem it⟩) h]
    · congr 1
      exact if_congr (by simp) rfl rfl
    · unfold testSubsystem
      dsimp only
      split_ifs <;> exact ⟨rfl, rfl, rfl⟩
  | false =>
    have hcheck : ∀ s' : BitmapScheduler nc ns,
        (s'.checkRuntime robot).refreshes sub = s'.refreshes sub := fun s' =>
      refreshes_eq_of_count (fun k hk _ => count_checkRuntime hk) sub
    have hcommands : (s.runCommands table robot).refreshes sub = s.refreshes sub :=
      refreshes_eq_of_count (fun k hk hne => count_runCommands hk hne) sub
    have hrest : SameRest s (s.runCommands table robot) := sameRest_runCommands
    rw [if_neg Bool.false_ne_true, hcheck, runSubsystems, hrest.master, ← hcommands,
      ← hrest.registered]
    cases s.isMasterScheduler with
    | true =>
      rw [if_pos rfl, refreshes_forEachSubsystem table
        (fun s' it h' => ⟨h'.refreshSubsystem robot it, sameRest_refreshSubsystem h' it,
          fun _ => refreshes_refreshSubsystem it⟩) (h.runCommands robot)]
      congr 1
      exact if_congr (by simp) rfl rfl
    | false =>
      rw [if_neg Bool.false_ne_true, if_neg (by simp)]
      rfl

theorem isSubsystemRegistered_iff (table : SchedulerTable nc ns) :
    s.isSubsystemRegistered sub = true ↔ Mem sub s.registeredSubsystemBitmap := by
  rw [isSubsystemRegistered, decide_eq_true_iff, BitVec.and_comm,
    and_oneHot_ne_zero_iff (table.subsystem_lt sub)]

/-- **Each call of `run()`**, in any run: a command is executed exactly once if it is scheduled, the
robot is not disconnected and no hardware tests run, and otherwise not at all; a subsystem that is
registered is refreshed exactly once, by the master scheduler or while the hardware tests run. -/
theorem count_run (table : SchedulerTable nc ns) (robot : ℕ → Question nc ns → Bool)
    (isMasterScheduler : Bool) (operations : List (Operation nc ns)) :
    let s := after (step table robot) (construct isMasterScheduler) operations
    (∀ command, (s.run table robot).calls.count (.execute command) =
      s.calls.count (.execute command) +
        if s.runningHardwareTests = false ∧ s.answer robot .safeDisconnected = false ∧
          s.isCommandScheduled command = true then 1 else 0) ∧
      ∀ sub, (s.run table robot).refreshes sub = s.refreshes sub +
        if (s.runningHardwareTests = true ∨ s.isMasterScheduler = true) ∧
          s.isSubsystemRegistered sub = true then 1 else 0 := by
  intro s
  have h : Inv table s :=
    Run.inv_after (fun _ op h => h.step robot op) (inv_construct isMasterScheduler)
  refine ⟨fun command => ?_, fun sub => ?_⟩
  · rw [count_execute_run table]
    simp only [isCommandScheduled_iff table]
  · rw [refreshes_run h]
    simp only [isSubsystemRegistered_iff table]

/-! ### While the robot is disconnected -/

/-- The call ends a command, or shuts a subsystem down, or is about the hardware tests or an
error. -/
def Stopping : Call nc ns → Prop
  | .endCommand _ interrupted => interrupted = true
  | .refreshSafeDisconnect _ | .setHardwareTestsComplete _ | .RAISE_ERROR _ => True
  | _ => False

/-- Some calls have been made, and some questions asked. -/
structure Grows (P : Call nc ns → Prop) (s s' : BitmapScheduler nc ns) : Prop where
  asked : s.asked ≤ s'.asked
  calls : ∃ new, s'.calls = s.calls ++ new ∧ ∀ k ∈ new, P k

section Grows

variable {P : Call nc ns → Prop} {s s' s'' : BitmapScheduler nc ns}

theorem Grows.refl (s : BitmapScheduler nc ns) : Grows P s s :=
  ⟨Nat.le_refl _, [], (List.append_nil _).symm, fun _ hk => absurd hk List.not_mem_nil⟩

theorem Grows.next (h : Grows P s s') : Grows P s s'.next :=
  ⟨Nat.le_succ_of_le h.asked, h.calls⟩

theorem Grows.call (h : Grows P s s') (hk : P k) : Grows P s (s'.call k) := by
  obtain ⟨hasked, new, hcalls, hnew⟩ := h
  refine ⟨hasked, new ++ [k], ?_, fun k' hk' => ?_⟩
  · rw [BitmapScheduler.call, hcalls, List.append_assoc]
  · rcases List.mem_append.1 hk' with hk' | hk'
    · exact hnew k' hk'
    · rw [List.mem_singleton.1 hk']
      exact hk

end Grows

/-- The robot is disconnected from the question on that is asked next. -/
def Disconnected (robot : ℕ → Question nc ns → Bool) (s : BitmapScheduler nc ns) : Prop :=
  ∀ n, s.asked ≤ n → robot n .safeDisconnected = true

/-- Nothing is scheduled, and the calls since `s` were to stop. -/
structure Halted (table : SchedulerTable nc ns) (s s' : BitmapScheduler nc ns) : Prop where
  inv : Inv table s'
  grows : Grows Stopping s s'
  added : s'.addedCommandBitmap = 0
  tests : s'.runningHardwareTests = false

theorem Halted.next {s' : BitmapScheduler nc ns} (h : Halted table s s') : Halted table s s'.next :=
  ⟨h.inv.next, h.grows.next, h.added, h.tests⟩

theorem Halted.call {s' : BitmapScheduler nc ns} (h : Halted table s s') (hneutral : Neutral k)
    (hk : Stopping k) : Halted table s (s'.call k) :=
  ⟨h.inv.neutral hneutral, h.grows.call hk, h.added, h.tests⟩

theorem Halted.disconnected {s' : BitmapScheduler nc ns} (h : Halted table s s')
    (hdisconnected : Disconnected robot s) : s'.answer robot .safeDisconnected = true :=
  hdisconnected _ h.grows.asked

/-- All commands end. -/
theorem halted_runCommands {s₀ : BitmapScheduler nc ns} (h : Inv table s)
    (hgrows : Grows Stopping s₀ s) (htests : s.runningHardwareTests = false)
    (hdisconnected : s.answer robot .safeDisconnected = true) :
    Halted table s₀ (s.runCommands table robot) := by
  rw [runCommands, if_pos hdisconnected]
  have hloop := forEach_induct addedCommandBitmap
    (fun s it => s.removeCommand table true (some it)) s.next table.commands_le
    (P := fun rest s' => Inv table s' ∧ Grows Stopping s₀ s' ∧ s'.runningHardwareTests = false ∧
      ∀ c : Fin nc, Mem c s'.addedCommandBitmap → c ∈ rest) ?_ ?_ ?_
  · obtain ⟨hinv, hgrows', htests', hnone⟩ := hloop
    refine ⟨hinv, hgrows', eq_zero_iff.2 fun i hi => ?_, htests'⟩
    exact List.not_mem_nil (hnone ⟨i, hinv.known i hi⟩ hi)
  · rintro it rest s' - ⟨hinv, hgrows', htests', hrest⟩ hnot
    refine ⟨hinv, hgrows', htests', fun c hc => ?_⟩
    refine (List.mem_cons.1 (hrest c hc)).resolve_left ?_
    rintro rfl
    exact hnot hc
  · rintro it rest s' - ⟨hinv, hgrows', htests', hrest⟩ hit
    refine ⟨hinv.removeCommand_some it true, ?_, ?_, fun c hc => ?_⟩
    · rw [removeCommand_of_mem hit]
      exact ⟨(hgrows'.call (k := .endCommand it true) rfl).asked,
        (hgrows'.call (k := .endCommand it true) rfl).calls⟩
    · rw [runningHardwareTests_removeCommand]
      exact htests'
    · obtain ⟨hne, hc⟩ := mem_removeCommand.1 hc
      exact (List.mem_cons.1 (hrest c hc)).resolve_left fun heq => hne (congrArg Fin.val heq)
  · exact ⟨h.next, hgrows.next, htests, fun c _ => List.mem_finRange c⟩

theorem Halted.refreshSubsystem {s' : BitmapScheduler nc ns} (h : Halted table s s')
    (hdisconnected : Disconnected robot s) (it : Fin ns) :
    Halted table s (s'.refreshSubsystem table robot it) := by
  have hrefresh : Halted table s (s'.next.call (.refreshSafeDisconnect it)) :=
    h.next.call trivial trivial
  unfold BitmapScheduler.refreshSubsystem
  rw [if_pos (h.disconnected hdisconnected)]
  dsimp only
  rw [hrefresh.disconnected hdisconnected]
  exact hrefresh.next

theorem halted_run {s₀ : BitmapScheduler nc ns} (h : Inv table s) (hgrows : Grows Stopping s₀ s)
    (htests : s.runningHardwareTests = false) (hdisconnected : Disconnected robot s₀) :
    Halted table s₀ (s.run table robot) := by
  have hcommands : Halted table s₀ (s.runCommands table robot) :=
    halted_runCommands h hgrows htests (hdisconnected _ hgrows.asked)
  have hsubsystems : Halted table s₀ ((s.runCommands table robot).runSubsystems table robot) := by
    unfold runSubsystems
    split_ifs
    · exact forEach_inv table.subsystems_le (P := fun s' => Halted table s₀ s')
        (fun it s' hs' _ => hs'.refreshSubsystem hdisconnected it) hcommands
    · exact hcommands
  unfold run checkRuntime
  rw [if_neg (htests ▸ Bool.false_ne_true)]
  split_ifs
  · exact hsubsystems.next.call trivial trivial
  · exact hsubsystems.next

/-- One operation, while the robot is disconnected. -/
theorem Halted.step {s' : BitmapScheduler nc ns} (h : Halted table s s')
    (hdisconnected : Disconnected robot s) {op : Operation nc ns} (hop : op ≠ .startHardwareTests) :
    Halted table s (s'.step table robot op) := by
  cases op with
  | run => exact halted_run h.inv h.grows h.tests hdisconnected
  | addCommand command =>
    rw [BitmapScheduler.step, addCommand, if_pos (h.disconnected hdisconnected)]
    exact h.next
  | removeCommand command interrupted =>
    cases command with
    | none => exact h.call trivial trivial
    | some command =>
      rw [BitmapScheduler.step, removeCommand_of_not_mem (h.added ▸ not_mem_zero)]
      exact h
  | registerSubsystem subsystem =>
    cases subsystem with
    | none => exact h.call trivial trivial
    | some sub =>
      have hinv := h.inv.registerSubsystem (some sub)
      rw [BitmapScheduler.step]
      unfold BitmapScheduler.registerSubsystem at hinv ⊢
      dsimp only at hinv ⊢
      split_ifs at hinv ⊢
      · exact h.call trivial trivial
      · exact ⟨hinv, ⟨h.grows.asked, h.grows.calls⟩, h.added, h.tests⟩
  | startHardwareTests => exact absurd rfl hop
  | stopHardwareTests =>
    have hloop : Halted table s
        (s'.forEachSubsystem fun s it => s.call (.setHardwareTestsComplete it)) :=
      forEach_inv table.subsystems_le (P := fun s' => Halted table s s')
        (fun it s' hs' _ => hs'.call trivial trivial) h
    exact ⟨h.inv.stopHardwareTests, ⟨hloop.grows.asked, hloop.grows.calls⟩, hloop.added, rfl⟩

/-- **While the robot is disconnected**: from a call of `run()` on, commands are only ended, as
interrupted, subsystems are only shut down, and nothing is scheduled, whatever is done with the
scheduler but to start the hardware tests. -/
theorem disconnected_run (table : SchedulerTable nc ns) (robot : ℕ → Question nc ns → Bool)
    (isMasterScheduler : Bool) (before rest : List (Operation nc ns))
    (hrest : ∀ op ∈ rest, op ≠ .startHardwareTests)
    (htests : (after (step table robot) (construct isMasterScheduler) before).runningHardwareTests =
      false)
    (hdisconnected : Disconnected robot
      (after (step table robot) (construct isMasterScheduler) before)) :
    let s := after (step table robot) (construct isMasterScheduler) before
    let s' := after (step table robot) s (.run :: rest)
    (∃ new, s'.calls = s.calls ++ new ∧ ∀ k ∈ new, Stopping k) ∧
      (∀ command, s'.isCommandScheduled command = false) ∧
        s'.subsystemsAssociatedWithCommandBitmap = 0 := by
  intro s s'
  have h : Inv table s :=
    Run.inv_after (fun _ op h => h.step robot op) (inv_construct isMasterScheduler)
  have hloop : ∀ (rest : List (Operation nc ns)) (s₁ : BitmapScheduler nc ns),
      Halted table s s₁ → (∀ op ∈ rest, op ≠ .startHardwareTests) →
        Halted table s (after (step table robot) s₁ rest) := by
    intro rest
    induction rest with
    | nil => exact fun _ hs₁ _ => hs₁
    | cons op rest ih =>
      intro s₁ hs₁ hops
      exact ih _ (hs₁.step hdisconnected (hops op List.mem_cons_self))
        fun op' hop' => hops op' (List.mem_cons_of_mem _ hop')
  have hhalted : Halted table s s' :=
    hloop rest _ (halted_run h (Grows.refl s) htests hdisconnected) hrest
  refine ⟨hhalted.grows.calls, fun command => ?_, eq_zero_iff.2 fun j hj => ?_⟩
  · rw [← Bool.not_eq_true, isCommandScheduled_iff table, hhalted.added]
    exact not_mem_zero
  · obtain ⟨c, hc, -⟩ := (hhalted.inv.associated j).1 hj
    rw [hhalted.added] at hc
    exact not_mem_zero hc

/-- Two commands of one subsystem. -/
def firstCommand : Fin 2 := (Fin.last 0).castSucc

def secondCommand : Fin 2 := Fin.last 1

def onlySubsystem : Fin 1 := Fin.last 0

/-- The first is the default command. -/
def twoCommands : SchedulerTable 2 1 :=
  ⟨by decide, by decide, fun _ => 1, fun _ => some firstCommand⟩

/-- A robot that is disconnected from the question with a given number on, and whose commands are
ready and never finish. -/
def connectedUntil (last : ℕ) (n : ℕ) : Question 2 1 → Bool
  | .safeDisconnected => decide (last ≤ n)
  | .isReady _ => true
  | _ => false

/-- A command has begun, and been executed, when the robot is disconnected. -/
def executingTwo : BitmapScheduler 2 1 :=
  after (step twoCommands (connectedUntil 7)) (construct true)
    [.registerSubsystem (some onlySubsystem), .addCommand (some secondCommand), .run]

theorem disconnected_run_two :
    (∃ new, (after (step twoCommands (connectedUntil 7)) executingTwo
        [.run, .addCommand (some firstCommand), .run]).calls = executingTwo.calls ++ new ∧
          ∀ k ∈ new, Stopping k) ∧
      (∀ command, (after (step twoCommands (connectedUntil 7)) executingTwo
        [.run, .addCommand (some firstCommand), .run]).isCommandScheduled command = false) ∧
      (after (step twoCommands (connectedUntil 7)) executingTwo
        [.run, .addCommand (some firstCommand), .run]).subsystemsAssociatedWithCommandBitmap =
          0 := by
  have htests : executingTwo.runningHardwareTests = false := by decide +kernel
  have hasked : 7 ≤ executingTwo.asked := by decide +kernel
  exact disconnected_run twoCommands (connectedUntil 7) true _
    [.addCommand (some firstCommand), .run]
    (by decide) htests fun n hn => decide_eq_true (Nat.le_trans hasked hn)

/-! ### Default commands -/

/-- A command that is ready and can be added begins. -/
theorem addCommand_eq_begin (hadd : Addable table s command)
    (htests : s.runningHardwareTests = false)
    (hconnected : s.answer robot .safeDisconnected = false)
    (hready : s.next.answer robot (.isReady command) = true) :
    s.addCommand table robot (some command) = begin table s.next.next command := by
  have hrefused : ¬ (table.getRequirementsBitwise command &&&
      s.next.next.registeredSubsystemBitmap ≠
      table.getRequirementsBitwise command ∨ table.getRequirementsBitwise command = 0) := by
    rw [not_or, not_not]
    exact ⟨hadd.registered, hadd.nonempty⟩
  have htests' : s.next.runningHardwareTests = false := htests
  rw [addCommand, if_neg (hconnected ▸ Bool.false_ne_true)]
  dsimp only
  rw [if_neg (htests' ▸ Bool.false_ne_true), hready, Bool.not_true, if_neg Bool.false_ne_true,
    if_neg hrefused]
  rfl

/-- Default commands require the subsystem that they are the default of, and no other. -/
def OwnDefaults (table : SchedulerTable nc ns) : Prop :=
  ∀ sub command, table.getDefaultCommand sub = some command →
    table.getRequirementsBitwise command = oneHot 64 sub

/-- The robot is connected, and default commands are ready, from the question on that is asked
next. -/
def Connected (table : SchedulerTable nc ns) (robot : ℕ → Question nc ns → Bool)
    (s : BitmapScheduler nc ns) : Prop :=
  ∀ n, s.asked ≤ n → robot n .safeDisconnected = false ∧
    ∀ sub command, table.getDefaultCommand sub = some command → robot n (.isReady command) = true

/-- Where a loop over the subsystems is: those that it has passed have a command, if they have a
default command, and only default commands have begun. -/
structure Defaulted (table : SchedulerTable nc ns) (s s' : BitmapScheduler nc ns)
    (rest : List (Fin ns)) : Prop where
  inv : Inv table s'
  same : SameRest s s'
  asked : s.asked ≤ s'.asked
  added : ∀ c : Fin nc, Mem c s'.addedCommandBitmap →
    Mem c s.addedCommandBitmap ∨ ∃ sub, table.getDefaultCommand sub = some c
  passed : ∀ sub : Fin ns, Mem sub s.registeredSubsystemBitmap →
    (table.getDefaultCommand sub).isSome → sub ∉ rest →
      Mem sub s'.subsystemsAssociatedWithCommandBitmap

theorem Defaulted.next {s' : BitmapScheduler nc ns} {rest : List (Fin ns)}
    (h : Defaulted table s s' rest) : Defaulted table s s'.next rest :=
  ⟨h.inv.next, ⟨h.same.registered, h.same.master, h.same.tests⟩, Nat.le_succ_of_le h.asked, h.added,
    h.passed⟩

theorem Defaulted.call {s' : BitmapScheduler nc ns} {rest : List (Fin ns)}
    (h : Defaulted table s s' rest) (hk : Neutral k) : Defaulted table s (s'.call k) rest :=
  ⟨h.inv.neutral hk, ⟨h.same.registered, h.same.master, h.same.tests⟩, h.asked, h.added, h.passed⟩

theorem asked_begin (command : Fin nc) : (begin table s command).asked = s.asked := by
  change (s.interrupt table (table.getRequirementsBitwise command)).asked = s.asked
  refine forEach_inv table.commands_le
    (P := fun s' : BitmapScheduler nc ns => s'.asked = s.asked) (fun it s' hs' _ => ?_) rfl
  split_ifs
  · refine Eq.trans ?_ hs'
    rw [removeCommand]
    split_ifs <;> rfl
  · exact hs'

/-- A default command begins without ending another. -/
theorem Defaulted.begin (hown : OwnDefaults table) {s' : BitmapScheduler nc ns} {it : Fin ns}
    {rest : List (Fin ns)} (h : Defaulted table s s' (it :: rest))
    (htests : s.runningHardwareTests = false)
    (hit : Mem it s.registeredSubsystemBitmap)
    (hfree : s'.subsystemsAssociatedWithCommandBitmap &&& oneHot 64 it = 0)
    (hdefault : table.getDefaultCommand it = some command) :
    Addable table s' command ∧ Defaulted table s (begin table s' command) rest := by
  have hrequired := hown it command hdefault
  have hregistered : Mem it s'.registeredSubsystemBitmap := h.same.registered ▸ hit
  have hmem : Mem it.val (table.getRequirementsBitwise command) := by
    rw [hrequired, mem_oneHot (table.subsystem_lt it)]
  have hadd : Addable table s' command := by
    refine ⟨and_eq_left_iff.2 fun i hi => ?_, fun hzero => not_mem_zero (hzero ▸ hmem)⟩
    rw [hrequired, mem_oneHot (table.subsystem_lt it)] at hi
    rw [hi]
    exact hregistered
  have hbegin := h.inv.begin hadd (h.same.tests.trans htests)
  have hkeep : ∀ c : Fin nc, Mem c s'.addedCommandBitmap →
      Mem c (BitmapScheduler.begin table s' command).addedCommandBitmap := by
    intro c hc
    refine (mem_begin h.inv command c).2 (Or.inr ⟨hc, ?_⟩)
    rw [hrequired, and_eq_zero_iff]
    intro i hi hot
    exact and_eq_zero_iff.1 hfree i ((h.inv.associated i).2 ⟨c, hc, hi⟩) hot
  refine ⟨hadd, hbegin, h.same.trans (sameRest_begin h.inv command), ?_, fun c hc => ?_,
    fun sub hsub hsome hnotin => ?_⟩
  · rw [asked_begin]
    exact h.asked
  · rcases (mem_begin h.inv command c).1 hc with rfl | ⟨hc, -⟩
    · exact Or.inr ⟨it, hdefault⟩
    · exact h.added c hc
  · rw [hbegin.associated]
    by_cases heq : sub = it
    · subst heq
      exact ⟨command, (mem_begin h.inv command command).2 (Or.inl rfl), hmem⟩
    · obtain ⟨c, hc, hj⟩ := (h.inv.associated sub).1
        (h.passed sub hsub hsome (by rw [List.mem_cons, not_or]; exact ⟨heq, hnotin⟩))
      exact ⟨c, hkeep c hc, hj⟩

theorem Defaulted.refreshSubsystem (hown : OwnDefaults table) {s' : BitmapScheduler nc ns}
    {it : Fin ns} {rest : List (Fin ns)} (h : Defaulted table s s' (it :: rest))
    (htests : s.runningHardwareTests = false) (hconnected : Connected table robot s)
    (hit : Mem it s.registeredSubsystemBitmap) :
    Defaulted table s (s'.refreshSubsystem table robot it) rest := by
  have hanswer : s'.answer robot .safeDisconnected = false := (hconnected _ h.asked).1
  have hrefresh : Defaulted table s (s'.next.call (.refresh it)) (it :: rest) :=
    h.next.call trivial
  unfold BitmapScheduler.refreshSubsystem
  rw [hanswer, if_neg Bool.false_ne_true]
  generalize s'.next.call (.refresh it) = refreshed at hrefresh
  have hanswer' : refreshed.answer robot .safeDisconnected = false :=
    (hconnected _ hrefresh.asked).1
  dsimp only
  rw [hanswer']
  cases hdefault : table.getDefaultCommand it with
  | none =>
    rw [Option.isSome_none, Bool.and_false, if_neg Bool.false_ne_true]
    refine ⟨hrefresh.inv.next, hrefresh.next.same, hrefresh.next.asked, hrefresh.added,
      fun sub hsub hsome hnotin => ?_⟩
    refine hrefresh.passed sub hsub hsome fun hin => ?_
    rcases List.mem_cons.1 hin with rfl | hin
    · rw [hdefault] at hsome
      exact Bool.false_ne_true hsome
    · exact hnotin hin
  | some command =>
    rw [Option.isSome_some, Bool.and_true, Bool.not_false, Bool.true_and]
    by_cases hfree : refreshed.next.subsystemsAssociatedWithCommandBitmap &&& oneHot 64 it = 0
    · rw [if_pos (decide_eq_true hfree)]
      have hnext := hrefresh.next
      have hadd := (hnext.begin hown htests hit hfree hdefault).1
      rw [addCommand_eq_begin hadd (hnext.same.tests.trans htests) (hconnected _ hnext.asked).1
        ((hconnected _ hnext.next.asked).2 it command hdefault)]
      exact (hnext.next.next.begin hown htests hit hfree hdefault).2
    · rw [if_neg (by simpa using hfree)]
      refine ⟨hrefresh.inv.next, hrefresh.next.same, hrefresh.next.asked, hrefresh.added,
        fun sub hsub hsome hnotin => ?_⟩
      by_cases heq : sub = it
      · subst heq
        exact (and_oneHot_ne_zero_iff (table.subsystem_lt sub)).1 hfree
      · refine hrefresh.passed sub hsub hsome ?_
        rw [List.mem_cons, not_or]
        exact ⟨heq, hnotin⟩

theorem asked_removeCommand (interrupted : Bool) (command : Option (Fin nc)) :
    (s.removeCommand table interrupted command).asked = s.asked := by
  cases command with
  | none => rfl
  | some command =>
    rw [removeCommand]
    split_ifs <;> rfl

/-- The commands that are still scheduled after the loop over them. -/
theorem mem_runCommands_of_connected (table : SchedulerTable nc ns)
    (hconnected : s.answer robot .safeDisconnected = false) :
    s.asked ≤ (s.runCommands table robot).asked ∧
      ∀ c : Fin nc, Mem c (s.runCommands table robot).addedCommandBitmap →
        Mem c s.addedCommandBitmap := by
  rw [runCommands, hconnected, if_neg Bool.false_ne_true]
  refine forEach_inv table.commands_le (P := fun s' : BitmapScheduler nc ns =>
    s.asked ≤ s'.asked ∧ ∀ c : Fin nc, Mem c s'.addedCommandBitmap → Mem c s.addedCommandBitmap)
    (fun it s' hs' _ => ?_) ⟨Nat.le_succ _, fun _ => id⟩
  unfold executeCommand
  dsimp only
  split_ifs
  · refine ⟨?_, fun c hc => hs'.2 c (mem_removeCommand.1 hc).2⟩
    rw [asked_removeCommand]
    exact Nat.le_succ_of_le hs'.1
  · exact ⟨Nat.le_succ_of_le hs'.1, hs'.2⟩

/-- After the loop over the subsystems, they have their commands. -/
theorem defaulted_run (h : Inv table s) (hown : OwnDefaults table)
    (hmaster : s.isMasterScheduler = true) (htests : s.runningHardwareTests = false)
    (hconnected : Connected table robot s) : Defaulted table s (s.run table robot) [] := by
  have hrest : SameRest s (s.runCommands table robot) := sameRest_runCommands
  have hcommands := mem_runCommands_of_connected table (hconnected _ (Nat.le_refl _)).1
  have hsubsystems : Defaulted table s
      ((s.runCommands table robot).runSubsystems table robot) [] := by
    rw [runSubsystems, hrest.master, if_pos hmaster]
    refine forEach_induct _ _ _ table.subsystems_le (P := fun rest s' => Defaulted table s s' rest)
      ?_ ?_ ?_
    · rintro it rest s' - hs' hnot
      rw [hs'.same.registered] at hnot
      refine ⟨hs'.inv, hs'.same, hs'.asked, hs'.added, fun sub hsub hsome hnotin => ?_⟩
      refine hs'.passed sub hsub hsome ?_
      rw [List.mem_cons, not_or]
      refine ⟨?_, hnotin⟩
      rintro rfl
      exact hnot hsub
    · rintro it rest s' - hs' hit
      rw [hs'.same.registered] at hit
      exact hs'.refreshSubsystem hown htests hconnected hit
    · refine ⟨h.runCommands robot, hrest, hcommands.1, fun c hc => Or.inl (hcommands.2 c hc), ?_⟩
      exact fun sub _ _ hnotin => absurd (List.mem_finRange sub) hnotin
  unfold run checkRuntime
  rw [if_neg (htests ▸ Bool.false_ne_true)]
  split_ifs
  · exact hsubsystems.next.call trivial
  · exact hsubsystems.next

/-- **Default commands**: after a call of `run()` of the connected master scheduler that runs no
hardware tests, every registered subsystem with a default command has a command, which was scheduled
before or is this default command, if default commands are ready and require their own subsystem
only. -/
theorem default_run (table : SchedulerTable nc ns) (robot : ℕ → Question nc ns → Bool)
    (isMasterScheduler : Bool) (operations : List (Operation nc ns)) (hown : OwnDefaults table)
    (hmaster : (after (step table robot) (construct isMasterScheduler)
      operations).isMasterScheduler = true)
    (htests : (after (step table robot) (construct isMasterScheduler)
      operations).runningHardwareTests = false)
    (hconnected : Connected table robot
      (after (step table robot) (construct isMasterScheduler) operations)) (sub : Fin ns) :
    let s := after (step table robot) (construct isMasterScheduler) operations
    s.isSubsystemRegistered sub = true → (table.getDefaultCommand sub).isSome = true →
      ∃ command : Fin nc, (s.run table robot).isCommandScheduled command = true ∧
        Mem sub (table.getRequirementsBitwise command) ∧
        (s.isCommandScheduled command = true ∨ table.getDefaultCommand sub = some command) := by
  intro s hsub hsome
  have h : Inv table s :=
    Run.inv_after (fun _ op h => h.step robot op) (inv_construct isMasterScheduler)
  rw [isSubsystemRegistered_iff table] at hsub
  have hrun := defaulted_run h hown hmaster htests hconnected
  obtain ⟨command, hcommand, hmem⟩ := (hrun.inv.associated sub).1
    (hrun.passed sub hsub hsome List.not_mem_nil)
  refine ⟨command, (isCommandScheduled_iff table).2 hcommand, hmem, ?_⟩
  rcases hrun.added command hcommand with hbefore | ⟨other, hother⟩
  · exact Or.inl ((isCommandScheduled_iff table).2 hbefore)
  · rw [hown other command hother, mem_oneHot (table.subsystem_lt other)] at hmem
    rw [Fin.ext hmem]
    exact Or.inr hother

/-- The subsystem has been registered, and the robot is connected. -/
def registeredTwo : BitmapScheduler 2 1 :=
  after (step twoCommands fun _ => connectedUntil 1 0) (construct true)
    [.registerSubsystem (some onlySubsystem)]

theorem default_run_two :
    ∃ command : Fin 2,
      (registeredTwo.run twoCommands fun _ => connectedUntil 1 0).isCommandScheduled command =
        true ∧
        Mem onlySubsystem (twoCommands.getRequirementsBitwise command) ∧
        (registeredTwo.isCommandScheduled command = true ∨
          twoCommands.getDefaultCommand onlySubsystem = some command) := by
  have hown : OwnDefaults twoCommands := by
    unfold OwnDefaults
    decide +kernel
  have hmaster : registeredTwo.isMasterScheduler = true := by decide +kernel
  have htests : registeredTwo.runningHardwareTests = false := by decide +kernel
  have hregistered : registeredTwo.isSubsystemRegistered onlySubsystem = true := by decide +kernel
  exact default_run twoCommands (fun _ => connectedUntil 1 0) true _ hown hmaster htests
    (fun _ _ => ⟨rfl, fun _ _ _ => rfl⟩) onlySubsystem hregistered rfl

end Aimbots.Tap.BitmapScheduler
