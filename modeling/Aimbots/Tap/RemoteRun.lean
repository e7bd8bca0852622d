import Aimbots.Tap.Remote

/-!
# What the remote reads of the line

From any state, a read during which the line has been silent for longer than the read timeout finds
the beginning of a frame again: what is parsed from then on is what arrives, cut into blocks of the
length of a frame (`parsed_run`), as long as the reads are in time.  While the remote is
disconnected, each read throws away what has arrived before it, so it stays disconnected until
something arrives during a read (`deaf_run`).
-/

namespace Aimbots.Tap.Remote

open Run (after Each)

variable {r r' : Remote} {event : RemoteEvent} {reading : Reading} {l : List UInt8}

/-- What has arrived and has not been parsed. -/
def pending (r : Remote) : List UInt8 := r.rxBuffer.take r.currentBufferIndex ++ r.uart

/-- The buffer has its length, and is not full. -/
structure Collecting (r : Remote) : Prop where
  length : r.rxBuffer.length = REMOTE_BUF_LEN
  index : r.currentBufferIndex < REMOTE_BUF_LEN

/-- What reading some bytes into the buffer does. -/
structure Read (now : UInt32) (l : List UInt8) (r r' : Remote) : Prop where
  length : r'.rxBuffer.length = r.rxBuffer.length
  index : r'.currentBufferIndex = r.currentBufferIndex + l.length
  taken : r'.rxBuffer.take r'.currentBufferIndex = r.rxBuffer.take r.currentBufferIndex ++ l
  lastRead : r'.lastRead = if l = [] then r.lastRead else now
  uart : r'.uart = []

theorem take_set_succ {i : ℕ} (hi : i < l.length) (data : UInt8) :
    (l.set i data).take (i + 1) = l.take i ++ [data] := by
  rw [List.take_add_one, List.take_set_of_le (Nat.le_refl i), List.getElem?_set_self hi]
  rfl

/-- **The loop over the bytes**, which all fit. -/
theorem read_readLoop (now : UInt32) (l : List UInt8) (r : Remote)
    (hlength : r.rxBuffer.length = REMOTE_BUF_LEN)
    (hfits : r.currentBufferIndex + l.length ≤ REMOTE_BUF_LEN) :
    Read now l r (readLoop now l r) := by
  induction l generalizing r with
  | nil => exact ⟨rfl, rfl, (List.append_nil _).symm, rfl, rfl⟩
  | cons data l ih =>
    rw [List.length_cons] at hfits
    have hindex : r.currentBufferIndex < REMOTE_BUF_LEN := by omega
    have hpush : (r.push now data).currentBufferIndex = r.currentBufferIndex + 1 := rfl
    have hrest := ih (r.push now data) (List.length_set.trans hlength) (by rw [hpush]; omega)
    rw [readLoop, if_pos hindex]
    refine ⟨hrest.length.trans List.length_set, ?_, ?_, ?_, hrest.uart⟩
    · rw [hrest.index, hpush, List.length_cons]
      omega
    · have htaken : (r.push now data).rxBuffer.take (r.push now data).currentBufferIndex =
          r.rxBuffer.take r.currentBufferIndex ++ [data] := take_set_succ (hlength ▸ hindex) data
      rw [hrest.taken, htaken, List.append_assoc]
      rfl
    · rw [hrest.lastRead, if_neg (List.cons_ne_nil data l)]
      split_ifs <;> rfl

/-- When the last byte has been read, after the loop of a read. -/
def lastByte (r : Remote) (reading : Reading) : UInt32 :=
  if r.uart ++ reading.arrived = [] then r.lastRead else reading.loop

/-- What arrives with an event. -/
def sent : RemoteEvent → List UInt8
  | .receive bytes => bytes
  | .read reading => reading.arrived ++ reading.late

/-- The event is in time: no more than one frame waits to be parsed, and no read finds the line
silent, but for a silence between frames that is not a disconnection. -/
def OnTime (r : Remote) : RemoteEvent → Prop
  | .receive bytes => (r.pending ++ bytes).length ≤ REMOTE_BUF_LEN
  | .read reading => reading.start - r.lastRead ≤ REMOTE_DISCONNECT_TIMEOUT ∧
      (r.pending ++ (reading.arrived ++ reading.late)).length ≤ REMOTE_BUF_LEN ∧
      (r.pending ++ (reading.arrived ++ reading.late) = [] ∨
        reading.finish - r.lastByte reading ≤ REMOTE_READ_TIMEOUT)

instance : ∀ event, Decidable (OnTime r event)
  | .receive bytes => inferInstanceAs (Decidable ((r.pending ++ bytes).length ≤ REMOTE_BUF_LEN))
  | .read _ => inferInstanceAs (Decidable (_ ∧ _ ∧ (_ ∨ _)))

/-- A frame has been parsed, or none has been. -/
def Parsed (r r' : Remote) : Option (List UInt8) → Prop
  | none => r'.remote = r.remote ∧ r'.connected = r.connected ∧ r'.keyStates = r.keyStates
  | some frame => r'.remote = .ofBuffer frame r.remote.updateCounter ∧ r'.connected = true ∧
      r'.keyStates = r.keyStates ++ [(RemoteInfo.ofBuffer frame 0).keyState]

theorem parsed_readLoop (now : UInt32) (l : List UInt8) (r : Remote) :
    Parsed r (readLoop now l r) none := by
  induction l generalizing r with
  | nil => exact ⟨rfl, rfl, rfl⟩
  | cons data l ih =>
    rw [readLoop]
    split_ifs
    · exact ih (r.push now data)
    · exact ⟨rfl, rfl, rfl⟩

/-- The end of a read that is in time: `frame` is all that has arrived and has not been parsed. -/
theorem parseFull_collected {r₁ : Remote} {now : UInt32} (hr : r.Collecting)
    (hread : Read now l r r₁)
    (hkept : Parsed r r₁ none) (late : List UInt8) (finish : UInt32) {frame : List UInt8}
    (hframe : r.rxBuffer.take r.currentBufferIndex ++ l ++ late = frame)
    (hfits : frame.length ≤ REMOTE_BUF_LEN)
    (hsilence : frame = [] ∨ finish - r₁.lastRead ≤ REMOTE_READ_TIMEOUT) :
    let r' := ((r₁.receive late).checkSilence finish).parseFull
    r'.Collecting ∧ (r'.pending = frame ∧ Parsed r r' none ∨
      frame.length = REMOTE_BUF_LEN ∧ r'.pending = [] ∧ Parsed r r' (some frame)) := by
  intro r'
  have hlength : frame.length = r₁.currentBufferIndex + late.length := by
    rw [← hframe, List.length_append, List.length_append, List.length_take, hr.length,
      Nat.min_eq_left hr.index.le, hread.index]
  have hpending : r₁.rxBuffer.take r₁.currentBufferIndex ++ late = frame := by
    rw [hread.taken, hframe]
  by_cases htimeout : finish - r₁.lastRead > REMOTE_READ_TIMEOUT
  · -- the line was silent, between two frames
    have hempty : frame = [] := hsilence.resolve_right (UInt32.not_le.2 htimeout)
    have hr' : r' = (r₁.receive late).clearRxBuffer := by
      have hsilent : (r₁.receive late).checkSilence finish = (r₁.receive late).clearRxBuffer :=
        if_pos htimeout
      exact (congrArg parseFull hsilent).trans rfl
    rw [hr', hempty]
    exact ⟨⟨rfl, Nat.succ_pos 17⟩, Or.inl ⟨rfl, hkept⟩⟩
  · have hr' : r' = (r₁.receive late).parseFull := by
      have hbusy : (r₁.receive late).checkSilence finish = r₁.receive late := if_neg htimeout
      exact congrArg parseFull hbusy
    rcases Nat.lt_or_ge r₁.currentBufferIndex REMOTE_BUF_LEN with hindex | hindex
    · have hsame : r' = r₁.receive late := hr'.trans (if_neg (Nat.not_le.2 hindex))
      rw [hsame]
      refine ⟨⟨hread.length.trans hr.length, hindex⟩, Or.inl ⟨?_, hkept⟩⟩
      have huart : (r₁.receive late).uart = late := by
        rw [receive, hread.uart]
        rfl
      rw [pending, huart]
      exact hpending
    · have hlate : late = [] := List.length_eq_zero_iff.1 (by omega)
      have hfull : r' = ({ r₁.receive late with connected := true }.parseBuffer).clearRxBuffer :=
        hr'.trans (if_pos hindex)
      have hbuffer : r₁.rxBuffer = frame := by
        rw [← hpending, hlate, List.append_nil, List.take_of_length_le]
        rw [hread.length, hr.length]
        exact hindex
      rw [hfull]
      refine ⟨⟨rfl, Nat.succ_pos 17⟩, Or.inr ⟨by omega, rfl, ?_, rfl, ?_⟩⟩
      · rw [← hbuffer, ← hkept.1]
        rfl
      · rw [← hbuffer, ← hkept.2.2]
        rfl

/-- **One event that is in time**: what has arrived waits to be parsed, or is the frame that has
been parsed. -/
theorem OnTime.step (h : OnTime r event) (hr : r.Collecting) :
    (r.step event).Collecting ∧
      ((r.step event).pending = r.pending ++ sent event ∧ Parsed r (r.step event) none ∨
        (r.pending ++ sent event).length = REMOTE_BUF_LEN ∧ (r.step event).pending = [] ∧
          Parsed r (r.step event) (some (r.pending ++ sent event))) := by
  cases event with
  | receive bytes =>
    refine ⟨⟨hr.length, hr.index⟩, Or.inl ⟨?_, rfl, rfl, rfl⟩⟩
    exact (List.append_assoc _ _ _).symm
  | read reading =>
    obtain ⟨hstart, hfits, hfinish⟩ := h
    have hframe : r.rxBuffer.take r.currentBufferIndex ++ (r.uart ++ reading.arrived) ++
        reading.late = r.pending ++ (reading.arrived ++ reading.late) := by
      simp only [pending, List.append_assoc]
    have hindex : r.currentBufferIndex + (r.uart ++ reading.arrived).length ≤ REMOTE_BUF_LEN := by
      rw [← hframe, List.length_append, List.length_append, List.length_take, hr.length,
        Nat.min_eq_left hr.index.le] at hfits
      omega
    have hread := read_readLoop reading.loop (r.uart ++ reading.arrived) r hr.length hindex
    have hcollect : r.step (.read reading) =
        (((readLoop reading.loop (r.uart ++ reading.arrived) r).receive
          reading.late).checkSilence reading.finish).parseFull := by
      rw [Remote.step, read, checkDisconnect, if_neg (UInt32.not_lt.2 hstart), collect]
    rw [hcollect]
    refine parseFull_collected hr hread (parsed_readLoop _ _ r) reading.late reading.finish
      hframe hfits ?_
    rw [hread.lastRead]
    exact hfinish

/-- All that arrives with some events. -/
def stream (events : List RemoteEvent) : List UInt8 := events.flatMap sent

/-- Some frames have been parsed, in this order. -/
structure ParsedAll (r r' : Remote) (frames : List (List UInt8)) : Prop where
  remote : r'.remote =
    frames.foldl (fun info frame => .ofBuffer frame info.updateCounter) r.remote
  keyStates : r'.keyStates =
    r.keyStates ++ frames.map fun frame => (RemoteInfo.ofBuffer frame 0).keyState
  connected : frames ≠ [] → r'.connected = true

theorem ParsedAll.of_none {r₁ : Remote} {frames : List (List UInt8)} (h : Parsed r r₁ none)
    (hrest : ParsedAll r₁ r' frames) : ParsedAll r r' frames := by
  obtain ⟨hremote, -, hkeyStates⟩ := h
  exact ⟨hremote ▸ hrest.remote, hkeyStates ▸ hrest.keyStates, hrest.connected⟩

theorem ParsedAll.of_some {r₁ : Remote} {frame : List UInt8} {frames : List (List UInt8)}
    (h : Parsed r r₁ (some frame)) (hconnected : frames = [] → r'.connected = r₁.connected)
    (hrest : ParsedAll r₁ r' frames) : ParsedAll r r' (frame :: frames) := by
  obtain ⟨hremote, hconnect, hkeyStates⟩ := h
  refine ⟨?_, ?_, fun _ => ?_⟩
  · rw [hrest.remote, hremote]
    rfl
  · rw [hrest.keyStates, hkeyStates, List.append_assoc]
    rfl
  · by_cases hframes : frames = []
    · exact (hconnected hframes).trans hconnect
    · exact hrest.connected hframes

/-- **Events that are in time**: what arrives is cut into frames. -/
theorem parsed_after {events : List RemoteEvent} (hr : r.Collecting)
    (hontime : Each step OnTime r events) :
    ∃ frames, r.pending ++ stream events =
        frames.flatten ++ (after step r events).pending ∧
      (∀ frame ∈ frames, frame.length = REMOTE_BUF_LEN) ∧
      ParsedAll r (after step r events) frames ∧
      (frames = [] → (after step r events).connected = r.connected) := by
  induction events generalizing r with
  | nil =>
    exact ⟨[], List.append_nil _, fun _ h => absurd h List.not_mem_nil,
      ⟨rfl, (List.append_nil _).symm, fun h => absurd rfl h⟩, fun _ => rfl⟩
  | cons event events ih =>
    have hstream : stream (event :: events) = sent event ++ stream events := List.flatMap_cons
    obtain ⟨hcollecting, hstep⟩ := hontime.1.step hr
    obtain ⟨frames, hcut, hframes, hparsed, hnone⟩ := ih hcollecting hontime.2
    rw [hstream, ← List.append_assoc]
    rcases hstep with ⟨hpending, hsame⟩ | ⟨hlength, hpending, hone⟩
    · rw [← hpending]
      exact ⟨frames, hcut, hframes, hparsed.of_none hsame, fun h => (hnone h).trans hsame.2.1⟩
    · rw [hpending, List.nil_append] at hcut
      refine ⟨(r.pending ++ sent event) :: frames, ?_, ?_, hparsed.of_some hone hnone,
        fun h => absurd h (List.cons_ne_nil _ _)⟩
      · simp only [hcut, List.flatten_cons, List.append_assoc]
        rfl
      · rintro frame hframe
        rcases List.mem_cons.1 hframe with rfl | hframe
        · exact hlength
        · exact hframes frame hframe

/-- A read of a silent line drops what is in the buffer. -/
theorem read_silent (huart : r.uart = []) (harrived : reading.arrived = [])
    (hlate : reading.late = []) (hsilent : REMOTE_READ_TIMEOUT < reading.finish - r.lastRead) :
    (r.read reading).Collecting ∧ (r.read reading).pending = [] := by
  have hcheck : (r.checkDisconnect reading.start).uart = [] ∧
      (r.checkDisconnect reading.start).lastRead = r.lastRead := by
    unfold checkDisconnect
    split_ifs
    · exact ⟨rfl, rfl⟩
    · exact ⟨huart, rfl⟩
  rw [read, harrived, hlate, collect, hcheck.1]
  generalize r.checkDisconnect reading.start = r₀ at hcheck
  have hclear : ((readLoop reading.loop ([] ++ []) r₀).receive []).checkSilence reading.finish =
      ((readLoop reading.loop ([] ++ []) r₀).receive []).clearRxBuffer :=
    if_pos (hcheck.2 ▸ hsilent)
  rw [hclear]
  exact ⟨⟨rfl, Nat.succ_pos 17⟩, rfl⟩

/-- **Frames are found again**: from any state, once a read has found the line silent, what is
parsed is what arrives from then on, cut into frames. -/
theorem parsed_run (r : Remote) (silent : Reading) (events : List RemoteEvent) (huart : r.uart = [])
    (harrived : silent.arrived = []) (hlate : silent.late = [])
    (hsilent : REMOTE_READ_TIMEOUT < silent.finish - r.lastRead)
    (hontime : Each step OnTime (r.read silent) events) :
    ∃ frames, stream events = frames.flatten ++ (after step (r.read silent) events).pending ∧
      (∀ frame ∈ frames, frame.length = REMOTE_BUF_LEN) ∧
      ParsedAll (r.read silent) (after step (r.read silent) events) frames := by
  obtain ⟨hcollecting, hpending⟩ := read_silent huart harrived hlate hsilent
  obtain ⟨frames, hcut, hframes, hparsed, -⟩ := parsed_after hcollecting hontime
  rw [hpending, List.nil_append] at hcut
  exact ⟨frames, hcut, hframes, hparsed⟩

/-- A remote that has half a frame. -/
def halfFrame : Remote := start.read ⟨1, List.replicate 9 0, 1, [], 1⟩

/-- A read of a silent line, and a frame in two pieces. -/
def silentLine : Reading := ⟨8, [], 8, [], 8⟩

def twoPieces : List RemoteEvent :=
  [.receive (List.replicate 5 4), .read ⟨10, List.replicate 5 4, 10, List.replicate 2 4, 11⟩,
    .receive (List.replicate 6 4), .read ⟨12, [], 12, [], 12⟩]

theorem parsed_run_two :
    ∃ frames, stream twoPieces = frames.flatten ++
        (after step (halfFrame.read silentLine) twoPieces).pending ∧
      (∀ frame ∈ frames, frame.length = REMOTE_BUF_LEN) ∧
      ParsedAll (halfFrame.read silentLine) (after step (halfFrame.read silentLine) twoPieces)
        frames :=
  parsed_run halfFrame silentLine twoPieces (by decide +kernel) rfl rfl (by decide +kernel)
    (by decide +kernel)

/-! ### A remote that is disconnected -/

/-- A read of a remote that is disconnected, during which nothing arrives before the bytes are
read. -/
def Deaf (r : Remote) (reading : Reading) : Prop :=
  REMOTE_DISCONNECT_TIMEOUT < reading.start - r.lastRead ∧ reading.arrived = []

/-- What the command mapper is shown of a remote that is disconnected. -/
def released : KeyState := ⟨0, .UNKNOWN, .UNKNOWN, false, false⟩

/-- A read throws away what has arrived before it: nothing is left in the UART but what comes after
its last byte has been read, and nothing in the buffer. -/
def ThrowsAway (r : Remote) : RemoteEvent → Prop
  | .receive _ => True
  | .read reading => (r.read reading).currentBufferIndex = 0 ∧
      (r.read reading).uart =
        if REMOTE_READ_TIMEOUT < reading.finish - r.lastRead then [] else reading.late

/-- **A read that hears nothing** throws away what has arrived. -/
theorem Deaf.read (h : Deaf r reading) :
    (r.read reading).lastRead = r.lastRead ∧ (r.read reading).connected = false ∧
      (r.read reading).remote = .zero r.remote.updateCounter ∧
      (r.read reading).keyStates = r.keyStates ++ [released] ∧ ThrowsAway r (.read reading) := by
  obtain ⟨hstart, harrived⟩ := h
  rw [ThrowsAway, Remote.read, checkDisconnect, if_pos hstart, harrived]
  -- nothing is in the UART when it is read, so the buffer is not full at the end of the read
  have hcollect : ((({ r with connected := false }.reset).collect reading.loop []).receive
      reading.late).lastRead = r.lastRead := rfl
  rw [checkSilence, hcollect]
  by_cases hsilent : reading.finish - r.lastRead > REMOTE_READ_TIMEOUT
  · rw [if_pos hsilent, if_pos hsilent]
    exact ⟨rfl, rfl, rfl, rfl, rfl, rfl⟩
  · rw [if_neg hsilent, if_neg hsilent]
    exact ⟨rfl, rfl, rfl, rfl, rfl, rfl⟩

/-- The event is a read. -/
def isRead : RemoteEvent → Bool
  | .receive _ => false
  | .read _ => true

/-- **While the remote is disconnected**: whatever arrives between the reads, and however many there
are, nothing is parsed, each read throws away what has arrived, and the remote stays
disconnected. -/
theorem deaf_run (r : Remote) (events : List RemoteEvent)
    (hdeaf : ∀ reading, .read reading ∈ events → Deaf r reading) :
    let r' := after step r events
    r'.lastRead = r.lastRead ∧
      r'.keyStates = r.keyStates ++ List.replicate (events.countP isRead) released ∧
      r'.connected = (if events.countP isRead = 0 then r.connected else false) ∧
      (r'.remote = if events.countP isRead = 0 then r.remote else .zero r.remote.updateCounter) ∧
      Each step ThrowsAway r events := by
  induction events generalizing r with
  | nil => exact ⟨rfl, (List.append_nil _).symm, rfl, rfl, trivial⟩
  | cons event events ih =>
    cases event with
    | receive bytes =>
      obtain ⟨hlastRead, hkeyStates, hconnected, hremote, hthrown⟩ := ih (r.receive bytes)
        fun reading hreading => hdeaf reading (List.mem_cons_of_mem _ hreading)
      exact ⟨hlastRead, hkeyStates, hconnected, hremote, trivial, hthrown⟩
    | read reading =>
      obtain ⟨hlastRead, hconnected, hremote, hkeyStates, hthrown⟩ :=
        (hdeaf reading List.mem_cons_self).read
      obtain ⟨hlastRead', hkeyStates', hconnected', hremote', hthrown'⟩ := ih (r.read reading)
        fun reading' hreading => by
          have hdeaf' := hdeaf reading' (List.mem_cons_of_mem _ hreading)
          exact ⟨hlastRead ▸ hdeaf'.1, hdeaf'.2⟩
      have hcount : (RemoteEvent.read reading :: events).countP isRead = events.countP isRead + 1 :=
        List.countP_cons_of_pos rfl
      rw [hcount, if_neg (Nat.succ_ne_zero _), if_neg (Nat.succ_ne_zero _)]
      refine ⟨hlastRead'.trans hlastRead, ?_, ?_, ?_, hthrown, hthrown'⟩
      · refine hkeyStates'.trans ?_
        rw [hkeyStates, List.replicate_succ, List.append_assoc]
        rfl
      · refine hconnected'.trans ?_
        split_ifs
        · exact hconnected
        · rfl
      · refine hremote'.trans ?_
        rw [hremote]
        split_ifs <;> rfl

/-- Bytes arrive between two reads of a remote that is disconnected. -/
def twoDeafReads : List RemoteEvent :=
  [.read ⟨101, [], 101, [], 101⟩, .receive (List.replicate 18 4), .read ⟨102, [], 102, [], 102⟩]

theorem deaf_run_two :
    (after step start twoDeafReads).lastRead = start.lastRead ∧
      (after step start twoDeafReads).keyStates =
        start.keyStates ++ List.replicate (twoDeafReads.countP isRead) released ∧
      (after step start twoDeafReads).connected =
        (if twoDeafReads.countP isRead = 0 then start.connected else false) ∧
      ((after step start twoDeafReads).remote =
        if twoDeafReads.countP isRead = 0 then start.remote
        else .zero start.remote.updateCounter) ∧
      Each step ThrowsAway start twoDeafReads := by
  refine deaf_run start twoDeafReads fun reading hreading => ?_
  simp only [twoDeafReads, List.mem_cons, List.not_mem_nil, or_false] at hreading
  rcases hreading with h | h | h
  · rw [RemoteEvent.read.inj h]
    exact ⟨by decide, rfl⟩
  · cases h
  · rw [RemoteEvent.read.inj h]
    exact ⟨by decide, rfl⟩

end Aimbots.Tap.Remote
