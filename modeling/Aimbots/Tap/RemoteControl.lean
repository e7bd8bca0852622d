import Aimbots.Tap.CommandMapperRun
import Aimbots.Tap.RemoteRun

/-!
# The remote, the command mapper and the scheduler together

Each read of the remote may show something to the command mapper, whose mappings add commands to the
scheduler and remove them.  While the remote is disconnected, no command is scheduled that only hold
mappings add, mappings that ask for something of the remote (`disconnected_safe`): in every run of
the three, however the bytes, the reads and the calls of the scheduler come about.
-/

namespace Aimbots.Tap

open Bitmap
open Run (after)

/-- The remote and the command mapper, which keeps the scheduler. -/
structure RemoteControl (nc ns : ℕ) where
  remote : Remote
  commandMapper : CommandMapper nc ns
deriving DecidableEq, Repr

/-- What happens to them; the keys change only when the remote has read them. -/
inductive ControlEvent (nc ns : ℕ) where
  | remote (event : RemoteEvent)
  | addMap (cmds : List (Option (Fin nc))) (rms : RemoteMapState) (mappingClass : MappingClass)
  | scheduler (operation : BitmapScheduler.Operation nc ns)
deriving DecidableEq, Repr

namespace RemoteControl

variable {nc ns : ℕ}

/-- All of them when the robot starts. -/
def start (isMasterScheduler : Bool) : RemoteControl nc ns :=
  ⟨.start, .start isMasterScheduler⟩

/-- What an event of the remote has shown to the command mapper. -/
def shown (r r' : Remote) : List KeyState := r'.keyStates.drop r.keyStates.length

/-- One event. -/
def step (table : SchedulerTable nc ns) (robot : ℕ → Question nc ns → Bool)
    (c : RemoteControl nc ns) : ControlEvent nc ns → RemoteControl nc ns
  | .remote event =>
    let r := c.remote.step event
    ⟨r, (shown c.remote r).foldl (fun mapper keys => mapper.handleKeyStateChange table robot keys)
      c.commandMapper⟩
  | .addMap cmds rms mappingClass =>
    { c with commandMapper := c.commandMapper.step table robot (.addMap cmds rms mappingClass) }
  | .scheduler operation =>
    { c with commandMapper := c.commandMapper.step table robot (.scheduler operation) }

/-! ### What the remote shows -/

/-- **What one event shows to the command mapper**: if the remote is disconnected after it, the last
that has been shown is that nothing is down. -/
theorem shown_step (r : Remote) (event : RemoteEvent) :
    ∃ new, (r.step event).keyStates = r.keyStates ++ new ∧
      ((r.step event).connected = false →
        new = [] ∧ r.connected = false ∨ new = [Remote.released]) := by
  cases event with
  | receive bytes => exact ⟨[], (List.append_nil _).symm, fun h => Or.inl ⟨rfl, h⟩⟩
  | read reading =>
    have hcheck : ∃ new, (r.checkDisconnect reading.start).keyStates = r.keyStates ++ new ∧
        ((r.checkDisconnect reading.start).connected = false →
          new = [] ∧ r.connected = false ∨ new = [Remote.released]) := by
      unfold Remote.checkDisconnect
      split_ifs
      · exact ⟨[Remote.released], rfl, fun _ => Or.inr rfl⟩
      · exact ⟨[], (List.append_nil _).symm, fun h => Or.inl ⟨rfl, h⟩⟩
    obtain ⟨new, hnew, hconnected⟩ := hcheck
    rw [Remote.step, Remote.read]
    generalize r.checkDisconnect reading.start = r₀ at hnew hconnected
    obtain ⟨-, hconnected', hkeyStates'⟩ :=
      Remote.parsed_readLoop reading.loop (r₀.uart ++ reading.arrived) r₀
    have hsilence : (((r₀.collect reading.loop reading.arrived).receive
        reading.late).checkSilence reading.finish).keyStates = r₀.keyStates ∧
        (((r₀.collect reading.loop reading.arrived).receive
          reading.late).checkSilence reading.finish).connected = r₀.connected := by
      unfold Remote.checkSilence
      split_ifs <;> exact ⟨hkeyStates', hconnected'⟩
    generalize ((r₀.collect reading.loop reading.arrived).receive
      reading.late).checkSilence reading.finish = r₁ at hsilence ⊢
    unfold Remote.parseFull
    split_ifs
    · refine ⟨new ++ [(RemoteInfo.ofBuffer r₁.rxBuffer r₁.remote.updateCounter).keyState], ?_,
        fun h => absurd h.symm Bool.false_ne_true⟩
      rw [← List.append_assoc, ← hnew, ← hsilence.1]
      rfl
    · exact ⟨new, hsilence.1.trans hnew, fun h => hconnected (hsilence.2 ▸ h)⟩

/-! ### A command that only hold mappings add -/

variable {table : SchedulerTable nc ns} {robot : ℕ → Question nc ns → Bool}
  {command : Fin nc} {c : RemoteControl nc ns}

/-- Nothing adds the command but mappings that end it and that ask for something of the remote, and
no toggle mapping does. -/
def FromRemote (command : Fin nc) : ControlEvent nc ns → Prop
  | .remote _ => True
  | .addMap cmds rms mappingClass => some command ∈ cmds →
      mappingClass.ends = true ∧ mappingClass ≠ .ToggleCommandMapping ∧ rms.Asks
  | .scheduler operation => operation ≠ .addCommand (some command)

/-- The mappings of the command, none of which is a toggle mapping, ask for something. -/
def Mapped (command : Fin nc) (mapper : CommandMapper nc ns) : Prop :=
  ∀ m ∈ mapper.commandsToRun, some command ∈ m.mappedCommands →
    m.state.toggles = false ∧ m.mapState.Asks

/-- The command is held by mappings, and by none while the remote is disconnected. -/
structure Safe (command : Fin nc) (c : RemoteControl nc ns) : Prop where
  held : CommandMapper.Held command c.commandMapper.commandsToRun c.commandMapper.commandScheduler
  mapped : Mapped command c.commandMapper
  released : c.remote.connected = false → ∀ m ∈ c.commandMapper.commandsToRun,
    some command ∈ m.mappedCommands → m.state.holds = false

theorem safe_start (command : Fin nc) (isMasterScheduler : Bool) :
    Safe command (start isMasterScheduler : RemoteControl nc ns) :=
  ⟨CommandMapper.held_start command isMasterScheduler, fun _ hm => absurd hm List.not_mem_nil,
    fun _ _ hm => absurd hm List.not_mem_nil⟩

theorem Mapped.handle {mapper : CommandMapper nc ns} (h : Mapped command mapper) (keys : KeyState) :
    Mapped command (mapper.handleKeyStateChange table robot keys) := by
  intro m' hm' hin
  obtain ⟨m, hm, hstate, hcommands, htoggles⟩ :=
    CommandMapper.exists_of_mem_executeAll keys.mapstate _ _ m' hm'
  rw [htoggles, hstate]
  exact h m hm (hcommands ▸ hin)

/-- **When the remote shows that nothing is down**, no mapping holds the command. -/
theorem Mapped.released {mapper : CommandMapper nc ns} (h : Mapped command mapper) :
    ∀ m ∈ (mapper.handleKeyStateChange table robot Remote.released).commandsToRun,
      some command ∈ m.mappedCommands → m.state.holds = false := by
  intro m hm hin
  obtain ⟨htoggles, hasks⟩ := h.handle Remote.released m hm hin
  rw [← Bool.not_eq_true]
  intro hholds
  rcases CommandMapper.shown_executeAll Remote.released.mapstate _ _ m hm hholds with h' | h'
  · exact Bool.false_ne_true (htoggles.symm.trans h')
  · rw [hasks.not_active rfl rfl rfl rfl rfl] at h'
    exact Bool.false_ne_true h'

theorem held_mapped_foldl (robot : ℕ → Question nc ns → Bool)
    (hdefault : ∀ sub, table.getDefaultCommand sub ≠ some command)
    (new : List KeyState) (mapper : CommandMapper nc ns)
    (hheld : CommandMapper.Held command mapper.commandsToRun mapper.commandScheduler)
    (hmapped : Mapped command mapper) :
    let mapper' := new.foldl
      (fun mapper keys => mapper.handleKeyStateChange table robot keys) mapper
    CommandMapper.Held command mapper'.commandsToRun mapper'.commandScheduler ∧
      Mapped command mapper' := by
  induction new generalizing mapper with
  | nil => exact ⟨hheld, hmapped⟩
  | cons keys new ih =>
    have hstep := hheld.step robot hdefault (.handleKeyStateChange keys) trivial
    exact ih _ hstep (hmapped.handle keys)

/-- **One event** keeps the command safe. -/
theorem Safe.step (hdefault : ∀ sub, table.getDefaultCommand sub ≠ some command)
    {event : ControlEvent nc ns} (hevent : FromRemote command event) (h : Safe command c) :
    Safe command (c.step table robot event) := by
  cases event with
  | remote event =>
    obtain ⟨new, hnew, hconnected⟩ := shown_step c.remote event
    have hshown : shown c.remote (c.remote.step event) = new := by
      rw [shown, hnew, List.drop_left]
    obtain ⟨hheld, hmapped⟩ :=
      held_mapped_foldl robot hdefault new c.commandMapper h.held h.mapped
    rw [RemoteControl.step, hshown]
    refine ⟨hheld, hmapped, fun hdisconnected => ?_⟩
    rcases hconnected hdisconnected with ⟨rfl, hbefore⟩ | rfl
    · exact h.released hbefore
    · exact h.mapped.released
  | addMap cmds rms mappingClass =>
    have hstep := h.held.step robot hdefault (.addMap cmds rms mappingClass)
      fun hin => (hevent hin).1
    refine ⟨hstep, fun m hm hin => ?_, fun hdisconnected m hm hin => ?_⟩
    · rcases CommandMapper.mem_addMap hm with hm | rfl
      · exact h.mapped m hm hin
      · rw [CommandMapper.mappedCommands_construct] at hin
        obtain ⟨-, htoggle, hasks⟩ := hevent (CommandMapping.mem_removeNull.1 hin)
        rw [CommandMapper.mapState_construct, CommandMapper.toggles_construct cmds rms htoggle]
        exact ⟨rfl, hasks⟩
    · rcases CommandMapper.mem_addMap hm with hm | rfl
      · exact h.released hdisconnected m hm hin
      · exact CommandMapper.holds_construct cmds rms mappingClass
  | scheduler operation =>
    exact ⟨h.held.step robot hdefault (.scheduler operation) hevent, h.mapped,
      h.released⟩

/-- **While the remote is disconnected**, no command is scheduled that only mappings add, if they
end it and ask for something of the remote. -/
theorem disconnected_safe (table : SchedulerTable nc ns) (robot : ℕ → Question nc ns → Bool)
    (isMasterScheduler : Bool) (command : Fin nc) (events : List (ControlEvent nc ns))
    (hdefault : ∀ sub, table.getDefaultCommand sub ≠ some command)
    (hevents : ∀ event ∈ events, FromRemote command event) :
    let c := after (step table robot) (start isMasterScheduler) events
    c.remote.connected = false →
      c.commandMapper.commandScheduler.isCommandScheduled command = false := by
  intro c hdisconnected
  have hloop : ∀ (events : List (ControlEvent nc ns)) (c : RemoteControl nc ns), Safe command c →
      (∀ event ∈ events, FromRemote command event) →
      Safe command (after (step table robot) c events) := by
    intro events
    induction events with
    | nil => exact fun _ h _ => h
    | cons event events ih =>
      intro c h hevents
      exact ih _ (h.step hdefault (hevents event List.mem_cons_self))
        fun e he => hevents e (List.mem_cons_of_mem _ he)
  have hsafe : Safe command c := hloop events _ (safe_start command isMasterScheduler) hevents
  rw [← Bool.not_eq_true, BitmapScheduler.isCommandScheduled_iff table]
  intro hmem
  obtain ⟨m, hm, hin, hholds⟩ := hsafe.held.holder hmem
  rw [hsafe.released hdisconnected m hm hin] at hholds
  exact Bool.false_ne_true hholds

open BitmapScheduler (secondCommand onlySubsystem) in
/-- A command is mapped to the left switch, the switch is moved up, and the remote falls silent. -/
def switchedUp : List (ControlEvent 2 1) :=
  [.scheduler (.registerSubsystem (some onlySubsystem)),
    .addMap [some secondCommand] (.ofSwitch .LEFT_SWITCH .UP) .HoldCommandMapping,
    .remote (.receive [0, 4, 32, 0, 1, 72, 0, 0, 0, 0, 0, 0, 0, 0, 0, 0, 0, 4]),
    .remote (.read ⟨1, [], 1, [], 1⟩), .scheduler .run, .remote (.read ⟨102, [], 102, [], 102⟩)]

open BitmapScheduler (secondCommand twoCommands connectedUntil) in
theorem disconnected_safe_second :
    (after (step twoCommands (connectedUntil 99)) (start true)
        (switchedUp.take 5)).commandMapper.commandScheduler.isCommandScheduled secondCommand =
          true ∧
      (after (step twoCommands (connectedUntil 99)) (start true)
        switchedUp).commandMapper.commandScheduler.isCommandScheduled secondCommand = false := by
  refine ⟨by decide +kernel, disconnected_safe twoCommands (connectedUntil 99) true secondCommand
    switchedUp (by decide) ?_ (by decide +kernel)⟩
  intro event hevent
  simp only [switchedUp, List.mem_cons, List.not_mem_nil, or_false] at hevent
  rcases hevent with rfl | rfl | rfl | rfl | rfl | rfl
  · exact fun h => nomatch h
  · exact fun _ => ⟨rfl, fun h => (nomatch h), by decide⟩
  · trivial
  · trivial
  · exact fun h => nomatch h
  · trivial

end RemoteControl

end Aimbots.Tap
