import Aimbots.Music.JukeboxPlayer

/-!
# The runs of `JukeboxPlayer`

A run logs the notes of the song that was requested last, the last one first, with the time at which
each one sounded, and how the song came to its end.  The times are those of a clock in milliseconds
that does not overflow, and the player reads it modulo `UInt32.size`.

The invariant has two parts: what was played of the song, for any times at all, and how long it was
held, for times that do not decrease.
-/

namespace Aimbots.Music

/-- A call of a function of the player. -/
inductive PlayerEvent
  | requestSong (name : SongTitle)
  | playMusic (time later : ℕ)
  | pause
  | unpause
  | stopCurrentSong (time : ℕ)
deriving DecidableEq

namespace PlayerEvent

/-- The times of a call are not before a time. -/
def From (clock : ℕ) : PlayerEvent → Prop
  | .playMusic time later => clock ≤ time ∧ time ≤ later
  | .stopCurrentSong time => clock ≤ time
  | _ => True

/-- The time after a call. -/
def clock (clock : ℕ) : PlayerEvent → ℕ
  | .playMusic _ later => later
  | .stopCurrentSong time => time
  | _ => clock

end PlayerEvent

/-- The times of the calls do not decrease. -/
def Timed : ℕ → List PlayerEvent → Prop
  | _, [] => True
  | clock, e :: events => e.From clock ∧ Timed (e.clock clock) events

/-- How the song that was requested last came to its end. -/
inductive Ending
  | playing
  | reachedEnd (time : ℕ)
  | stopped (time : ℕ)
deriving DecidableEq

namespace Ending

/-- When a song ended. -/
def time? : Ending → Option ℕ
  | .playing => none
  | .reachedEnd time => some time
  | .stopped time => some time

/-- When a song ended, if it came to its `END`. -/
def reached? : Ending → Option ℕ
  | .reachedEnd time => some time
  | _ => none

end Ending

/-- Every note sounded until the next one for as long as it is to be held, and the last one until a
time, if there is one. -/
def HeldUntil (hold : MusicNote → ℚ) : Option ℕ → List (MusicNote × ℕ) → Prop
  | _, [] => True
  | stop, (note, start) :: earlier =>
    (∀ time ∈ stop, start + hold note ≤ time) ∧ HeldUntil hold (some start) earlier

theorem HeldUntil.of_head {hold : MusicNote → ℚ} {sounded : List (MusicNote × ℕ)} {time : ℕ}
    (h : HeldUntil hold none sounded) (hhead : ∀ s ∈ sounded.head?, s.2 + hold s.1 ≤ time) :
    HeldUntil hold (some time) sounded := by
  cases sounded with
  | nil => trivial
  | cons s earlier =>
    refine ⟨fun t ht => ?_, h.2⟩
    obtain rfl := Option.mem_some.1 ht
    exact hhead s rfl

/-- The difference of two readings of the clock. -/
theorem toNat_sub_ofNat {start time : ℕ} (h : start ≤ time) :
    (UInt32.ofNat time - UInt32.ofNat start).toNat = (time - start) % UInt32.size := by
  rw [UInt32.toNat_sub, UInt32.toNat_ofNat', UInt32.toNat_ofNat',
    show UInt32.size = 2 ^ 32 from rfl]
  omega

/-- The player with its log. -/
structure PlayerRun where
  player : JukeboxPlayer
  requested : SongTitle
  sounded : List (MusicNote × ℕ)
  ending : Ending
deriving DecidableEq

namespace PlayerRun

/-- A player that was constructed. -/
def construct (initSong : SongTitle) : PlayerRun where
  player := JukeboxPlayer.construct initSong
  requested := initSong
  sounded := []
  ending := .playing

/-- The time of the last note. -/
def lastSounded (r : PlayerRun) : ℕ := (r.sounded.head?.map Prod.snd).getD 0

/-- The log of a call of `playMusic`: the song is over, or a note begins to be held. -/
def logPlay (r : PlayerRun) (time later : ℕ) (player : JukeboxPlayer) : PlayerRun :=
  if player.isCurrentSongDone && !r.player.isCurrentSongDone then
    { r with player := player, ending := .reachedEnd time }
  else if player.holdNote && !r.player.holdNote then
    { r with player := player, sounded := (player.prevNote, later) :: r.sounded }
  else { r with player := player }

variable (songsList : SongTitle → Song)

/-- A call. -/
def next (r : PlayerRun) : PlayerEvent → Option PlayerRun
  | .requestSong name =>
    let request := r.player.requestSong name
    if request.1 then some ⟨request.2, name, [], .playing⟩
    else some { r with player := request.2 }
  | .playMusic time later =>
    (r.player.playMusic songsList (UInt32.ofNat time) (UInt32.ofNat later)).map
      (r.logPlay time later)
  | .pause => some { r with player := r.player.pause }
  | .unpause => some { r with player := r.player.unpause }
  | .stopCurrentSong time => some
    { r with
      player := r.player.stopCurrentSong
      ending := if r.player.isCurrentSongDone then r.ending else .stopped time }

/-- The calls one after the other. -/
def execute : PlayerRun → List PlayerEvent → Option PlayerRun
  | r, [] => some r
  | r, e :: events => (next songsList r e).bind fun r' => execute r' events

/-! ### What a call of `playMusic` does -/

/-- The ways in which `playMusic` takes a run to another. -/
inductive PlayStep (time later : ℕ) (r : PlayerRun) : PlayerRun → Prop
  | idle (h : ¬ r.player.Plays) : PlayStep time later r r
  | hold (note : MusicNote) (hhold : r.player.holdNote = true)
      (hnote : (songsList r.requested).songNotes[r.player.currNoteIndex]? = some note)
      (hearly : UInt32.ofNat time - r.player.prevTime <
        (songsList r.requested).MS_HOLD_FOR_NOTE note) :
      PlayStep time later r r
  | advance (note : MusicNote) (hhold : r.player.holdNote = true)
      (hnote : (songsList r.requested).songNotes[r.player.currNoteIndex]? = some note)
      (hlate : (songsList r.requested).MS_HOLD_FOR_NOTE note ≤
        UInt32.ofNat time - r.player.prevTime) :
      PlayStep time later r { r with
        player := { r.player with
          currNoteIndex := r.player.currNoteIndex + 1, holdNote := false } }
  | sound (note : MusicNote) (hhold : r.player.holdNote = false)
      (hplaying : r.ending = .playing) (hsong : r.player.currentSongTitle ≠ .NONE)
      (hnote : (songsList r.requested).songNotes[r.player.currNoteIndex]? = some note)
      (hindex : r.player.currNoteIndex < (songsList r.requested).endIndex) :
      PlayStep time later r { r with
        player := { r.player with
          prevTime := UInt32.ofNat later, buzzer := note.frequency, prevNote := note,
          holdNote := true }
        sounded := (note, later) :: r.sounded }
  | finish (hhold : r.player.holdNote = false) (hplaying : r.ending = .playing)
      (hindex : r.player.currNoteIndex = (songsList r.requested).endIndex)
      (hwatch : r.player.currNoteIndex ≤ pauseAtIndexWatch) :
      PlayStep time later r { r with
        player := r.player.stopCurrentSong, ending := .reachedEnd time }

/-- **What was played**: the first notes of the song, up to the one at the index. -/
structure Inv (r : PlayerRun) : Prop where
  title_eq : r.player.currentSongTitle = if r.ending = .playing then r.requested else .NONE
  length_le : r.sounded.length ≤ (songsList r.requested).endIndex
  notes_eq :
    r.sounded.reverse.map Prod.fst = (songsList r.requested).songNotes.take r.sounded.length
  length_eq : r.ending = .playing →
    r.sounded.length = r.player.currNoteIndex + r.player.holdNote.toNat
  reached : ∀ time, r.ending = .reachedEnd time →
    r.sounded.length = (songsList r.requested).endIndex ∧
      (songsList r.requested).endIndex ≤ pauseAtIndexWatch
  active : r.player.holdNote = true → r.player.currentSongTitle ≠ .NONE
  held : r.player.holdNote = true → ∃ s, r.sounded.head? = some s ∧
    (songsList r.requested).songNotes[r.player.currNoteIndex]? = some s.1 ∧
    r.player.buzzer = s.1.frequency ∧ r.player.prevTime = UInt32.ofNat s.2

variable {songsList} {r r' : PlayerRun} {e : PlayerEvent} {time later clock : ℕ}

/-- A request without a song that is active. -/
theorem next_requestSong_of_done {name : SongTitle} (hdone : r.player.currentSongTitle = .NONE) :
    next songsList r (.requestSong name) = some
      { player := { r.player with
          isCurrSongPaused := false, currNoteIndex := 0, currentSongTitle := name }
        requested := name
        sounded := []
        ending := .playing } := by
  simp [next, JukeboxPlayer.requestSong, JukeboxPlayer.isCurrentSongDone, JukeboxPlayer.unpause,
    hdone]

theorem next_requestSong_of_active {name : SongTitle} (hsong : r.player.currentSongTitle ≠ .NONE) :
    next songsList r (.requestSong name) = some r := by
  simp [next, JukeboxPlayer.requestSong, JukeboxPlayer.isCurrentSongDone, hsong]

/-- A stop ends a song only if one is active. -/
theorem next_stopCurrentSong :
    next songsList r (.stopCurrentSong time) = some { r with
      player := r.player.stopCurrentSong
      ending := if r.player.currentSongTitle = .NONE then r.ending else .stopped time } := by
  simp [next, JukeboxPlayer.isCurrentSongDone]

theorem inv_construct (initSong : SongTitle) : Inv songsList (construct initSong) where
  title_eq := rfl
  length_le := Nat.zero_le _
  notes_eq := rfl
  length_eq := fun _ => rfl
  reached := fun _ h => by cases h
  active := fun h => by cases h
  held := fun h => by cases h

namespace Inv

/-- A song that is active is the one that was requested last, and the index is not past its
`END`. -/
theorem of_active (h : Inv songsList r) (hsong : r.player.currentSongTitle ≠ .NONE) :
    r.ending = .playing ∧ r.player.currentSongTitle = r.requested ∧
      r.player.currNoteIndex + r.player.holdNote.toNat ≤ (songsList r.requested).endIndex := by
  have htitle := h.title_eq
  by_cases hplaying : r.ending = .playing
  · rw [if_pos hplaying] at htitle
    exact ⟨hplaying, htitle, h.length_eq hplaying ▸ h.length_le⟩
  · rw [if_neg hplaying] at htitle
    exact absurd htitle hsong

/-- Without a song no note is held. -/
theorem holdNote_eq_false (h : Inv songsList r) (hdone : r.player.currentSongTitle = .NONE) :
    r.player.holdNote = false := by
  by_contra hhold
  exact h.active (Bool.not_eq_false _ ▸ hhold) hdone

/-- While no note is held, as many notes were played as the index says. -/
theorem length_eq_index (h : Inv songsList r) (hplaying : r.ending = .playing)
    (hhold : r.player.holdNote = false) : r.sounded.length = r.player.currNoteIndex := by
  have hlength := h.length_eq hplaying
  rwa [hhold, Bool.toNat_false, Nat.add_zero] at hlength

/-- The note that is held is the last one that sounded, and it was held for long enough if the clock
has counted its duration since then. -/
theorem held_note (h : Inv songsList r) (hhold : r.player.holdNote = true) {note : MusicNote}
    (hnote : (songsList r.requested).songNotes[r.player.currNoteIndex]? = some note) :
    ∃ start, r.sounded.head? = some (note, start) ∧ ∀ time, start ≤ time →
      ((songsList r.requested).MS_HOLD_FOR_NOTE note ≤ UInt32.ofNat time - r.player.prevTime ↔
        (songsList r.requested).wholeDuration note ≤ (time - start) % UInt32.size) := by
  obtain ⟨⟨note', start⟩, hs, hnote', -, hprev⟩ := h.held hhold
  obtain rfl : note = note' := Option.some.inj (hnote.symm.trans hnote')
  refine ⟨start, hs, fun time hstart => ?_⟩
  rw [hprev, UInt32.le_iff_toNat_le, toNat_sub_ofNat hstart,
    Song.toNat_MS_HOLD_FOR_NOTE _ (List.mem_of_getElem? hnote)]

/-- `playMusic` takes a run in one of these ways. -/
theorem playMusic (h : Inv songsList r) (time later : ℕ) :
    ∃ r', next songsList r (.playMusic time later) = some r' ∧
      PlayStep songsList time later r r' := by
  by_cases hplays : r.player.Plays
  · have hsong := hplays.1
    obtain ⟨hplaying, htitle, hindex⟩ := h.of_active hsong
    obtain ⟨note, hnote, -, hend⟩ := (songsList r.requested).exists_note
      (le_trans (Nat.le_add_right _ _) hindex)
    have hsame : songsList r.player.currentSongTitle = songsList r.requested :=
      congrArg songsList htitle
    have hplay : r.player.playMusic songsList (UInt32.ofNat time) (UInt32.ofNat later) = _ :=
      JukeboxPlayer.playMusic_plays hplays (by rw [hsame]; exact hnote)
    rw [hsame] at hplay
    simp only [next, hplay, Option.map_some, Option.some.injEq, exists_eq_left']
    cases hhold : r.player.holdNote with
    | true =>
      by_cases hlate : (songsList r.requested).MS_HOLD_FOR_NOTE note ≤
          UInt32.ofNat time - r.player.prevTime
      · have hlog : PlayStep songsList time later r _ := .advance note hhold hnote hlate
        simpa [hlate, logPlay, JukeboxPlayer.isCurrentSongDone, hsong] using hlog
      · have hlog : PlayStep songsList time later r _ :=
          .hold note hhold hnote (UInt32.not_le.1 hlate)
        simpa [hlate, logPlay, hhold] using hlog
    | false =>
      by_cases hfreq : note.frequency = NoteFreq.END
      · have hlog : PlayStep songsList time later r _ :=
          .finish hhold hplaying (hend.1 hfreq) hplays.2.2
        simpa [hfreq, logPlay, JukeboxPlayer.isCurrentSongDone, JukeboxPlayer.stopCurrentSong,
          hsong] using hlog
      · have hlt : r.player.currNoteIndex < (songsList r.requested).endIndex :=
          lt_of_le_of_ne (le_trans (Nat.le_add_right _ _) hindex) (mt hend.2 hfreq)
        have hlog : PlayStep songsList time later r _ :=
          .sound note hhold hplaying hsong hnote hlt
        simpa [hfreq, logPlay, JukeboxPlayer.isCurrentSongDone, hsong, hhold] using hlog
  · refine ⟨r, ?_, .idle hplays⟩
    simp [next, JukeboxPlayer.playMusic_idle hplays, logPlay]

end Inv

/-! ### The invariant along a run -/

/-- A call of `playMusic` keeps what was played. -/
theorem PlayStep.inv (hstep : PlayStep songsList time later r r') (h : Inv songsList r) :
    Inv songsList r' := by
  cases hstep with
  | idle => exact h
  | hold => exact h
  | advance note hhold hnote hlate =>
    have hsong := h.active hhold
    refine { h with length_eq := fun hplaying => ?_, active := nofun, held := nofun }
    have hlength := h.length_eq hplaying
    rw [hhold] at hlength
    simpa using hlength
  | sound note hhold hplaying hsong hnote hindex =>
    have hlength := h.length_eq_index hplaying hhold
    refine
      { title_eq := h.title_eq
        length_le := ?_
        notes_eq := ?_
        length_eq := fun _ => ?_
        reached := fun t ht => absurd (hplaying.symm.trans ht) nofun
        active := fun _ => hsong
        held := fun _ => ⟨(note, later), rfl, hnote, rfl, rfl⟩ }
    · rw [List.length_cons, hlength]
      exact hindex
    · rw [List.length_cons, List.take_add_one, ← h.notes_eq, hlength, hnote]
      simp
    · simp [hlength]
  | finish hhold hplaying hindex hwatch =>
    have hlength := h.length_eq_index hplaying hhold
    exact
      { title_eq := rfl
        length_le := h.length_le
        notes_eq := h.notes_eq
        length_eq := nofun
        reached := fun _ _ => ⟨hlength.trans hindex, hindex ▸ hwatch⟩
        active := nofun
        held := nofun }

/-- Every call keeps what was played. -/
theorem Inv.next (h : Inv songsList r) (e : PlayerEvent) :
    ∃ r', PlayerRun.next songsList r e = some r' ∧ Inv songsList r' := by
  cases e with
  | requestSong name =>
    by_cases hdone : r.player.currentSongTitle = .NONE
    · have hhold : r.player.holdNote = false := h.holdNote_eq_false hdone
      exact ⟨_, next_requestSong_of_done hdone,
        { title_eq := rfl
          length_le := Nat.zero_le _
          notes_eq := rfl
          length_eq := fun _ => by simp [hhold]
          reached := nofun
          active := fun hheld => absurd (hhold.symm.trans hheld) nofun
          held := fun hheld => absurd (hhold.symm.trans hheld) nofun }⟩
    · exact ⟨r, next_requestSong_of_active hdone, h⟩
  | playMusic time later =>
    obtain ⟨r', hnext, hstep⟩ := h.playMusic time later
    exact ⟨r', hnext, hstep.inv h⟩
  | pause => exact ⟨_, rfl, { h with }⟩
  | unpause => exact ⟨_, rfl, { h with }⟩
  | stopCurrentSong time =>
    refine ⟨_, next_stopCurrentSong, ?_⟩
    by_cases hdone : r.player.currentSongTitle = .NONE
    · rw [if_pos hdone]
      exact
        { h with
          title_eq := hdone.symm.trans h.title_eq
          length_eq := fun hplaying =>
            h.length_eq_index hplaying (h.holdNote_eq_false hdone)
          active := nofun
          held := nofun }
    · rw [if_neg hdone]
      exact
        { title_eq := rfl
          length_le := h.length_le
          notes_eq := h.notes_eq
          length_eq := nofun
          reached := nofun
          active := nofun
          held := nofun }

/-! ### The times -/

/-- The hold of a note of a song, in whole milliseconds. -/
def wholeHold (song : Song) (note : MusicNote) : ℚ := song.wholeDuration note

/-- **How long it was held**, at a time: until the next note, or the `END`, and the last note for as
long as it is to be held when the index has gone past it. -/
structure Paced (songsList : SongTitle → Song) (clock : ℕ) (r : PlayerRun) : Prop where
  started : ∀ s ∈ r.sounded.head?, s.2 ≤ clock
  heldUntil : HeldUntil (wholeHold (songsList r.requested)) r.ending.reached? r.sounded
  waited : r.ending = .playing → r.player.holdNote = false →
    ∀ s ∈ r.sounded.head?, s.2 + wholeHold (songsList r.requested) s.1 ≤ clock

theorem Paced.mono {later : ℕ} (h : Paced songsList clock r) (hle : clock ≤ later) :
    Paced songsList later r := by
  have hcast : (clock : ℚ) ≤ later := by exact_mod_cast hle
  exact
    { h with
      started := fun s hs => le_trans (h.started s hs) hle
      waited := fun hplaying hhold s hs => le_trans (h.waited hplaying hhold s hs) hcast }

/-- A call of `playMusic` keeps the pace. -/
theorem PlayStep.paced (hstep : PlayStep songsList time later r r') (h : Inv songsList r)
    (hpaced : Paced songsList clock r) (htime : clock ≤ time) (hlater : time ≤ later) :
    Paced songsList later r' := by
  have hpaced' : Paced songsList time r := hpaced.mono htime
  cases hstep with
  | idle => exact hpaced'.mono hlater
  | hold => exact hpaced'.mono hlater
  | advance note hhold hnote hlate =>
    refine Paced.mono ?_ hlater
    obtain ⟨start, hs, hlong⟩ := h.held_note hhold hnote
    have hstart : start ≤ time := hpaced'.started _ hs
    have hwhole : (songsList r.requested).wholeDuration note ≤ time - start :=
      le_trans ((hlong time hstart).1 hlate) (Nat.mod_le _ _)
    refine { hpaced' with waited := fun _ _ s' hs' => ?_ }
    obtain rfl : (note, start) = s' := Option.some.inj (hs.symm.trans hs')
    have hsum : start + (songsList r.requested).wholeDuration note ≤ time := by omega
    unfold wholeHold
    exact_mod_cast hsum
  | sound note hhold hplaying hsong hnote hindex =>
    have hheld := hpaced.heldUntil
    rw [hplaying] at hheld
    refine
      { started := fun s hs => by
          obtain rfl := Option.some.inj hs
          exact le_rfl
        heldUntil := ?_
        waited := nofun }
    simp only [hplaying]
    exact ⟨nofun, hheld.of_head ((hpaced'.mono hlater).waited hplaying hhold)⟩
  | finish hhold hplaying hindex hwatch =>
    have hheld := hpaced.heldUntil
    rw [hplaying] at hheld
    exact
      { started := (hpaced'.mono hlater).started
        heldUntil := hheld.of_head (hpaced'.waited hplaying hhold)
        waited := nofun }

/-- Every call keeps the pace. -/
theorem Inv.paced (h : Inv songsList r) (hpaced : Paced songsList clock r) (hfrom : e.From clock)
    (hnext : PlayerRun.next songsList r e = some r') : Paced songsList (e.clock clock) r' := by
  cases e with
  | requestSong name =>
    by_cases hdone : r.player.currentSongTitle = .NONE
    · obtain rfl := Option.some.inj ((next_requestSong_of_done hdone).symm.trans hnext)
      exact ⟨nofun, trivial, nofun⟩
    · obtain rfl := Option.some.inj ((next_requestSong_of_active hdone).symm.trans hnext)
      exact hpaced
  | playMusic time later =>
    obtain ⟨r'', hnext', hstep⟩ := h.playMusic time later
    obtain rfl : r'' = r' := Option.some.inj (hnext'.symm.trans hnext)
    exact hstep.paced h hpaced hfrom.1 hfrom.2
  | pause =>
    obtain rfl := Option.some.inj hnext
    exact { hpaced with }
  | unpause =>
    obtain rfl := Option.some.inj hnext
    exact { hpaced with }
  | stopCurrentSong time =>
    obtain rfl := Option.some.inj (next_stopCurrentSong.symm.trans hnext)
    have hpaced' : Paced songsList time r := hpaced.mono hfrom
    by_cases hdone : r.player.currentSongTitle = .NONE
    · simp only [if_pos hdone]
      have hhold := h.holdNote_eq_false hdone
      exact { hpaced' with waited := fun hplaying _ => hpaced'.waited hplaying hhold }
    · simp only [if_neg hdone]
      have hheld := hpaced'.heldUntil
      rw [(h.of_active hdone).1] at hheld
      exact { started := hpaced'.started, heldUntil := hheld, waited := nofun }

theorem execute_cons {events : List PlayerEvent} (hnext : next songsList r e = some r') :
    execute songsList r (e :: events) = execute songsList r' events := by
  rw [execute, hnext, Option.bind_some]

/-- The invariant after a run. -/
theorem execute_spec {events : List PlayerEvent} (h : Inv songsList r)
    (hpaced : Paced songsList clock r) (htimed : Timed clock events) :
    ∃ r' clock', execute songsList r events = some r' ∧ Inv songsList r' ∧
      Paced songsList clock' r' := by
  induction events generalizing r clock with
  | nil => exact ⟨r, clock, rfl, h, hpaced⟩
  | cons e events ih =>
    obtain ⟨r₁, hnext, h₁⟩ := h.next e
    obtain ⟨r', clock', hrun, h', hpaced'⟩ := ih h₁ (h.paced hpaced htimed.1 hnext) htimed.2
    exact ⟨r', clock', (execute_cons hnext).trans hrun, h', hpaced'⟩

/-! ### The end of a song -/

/-- Calls of `playMusic`. -/
def plays (calls : List (ℕ × ℕ)) : List PlayerEvent :=
  calls.map fun call => .playMusic call.1 call.2

/-- Every call comes late enough: the time since the one before it is at least `D` for the clock of
the player. -/
def LateEnough (D : ℕ) : ℕ → List (ℕ × ℕ) → Prop
  | _, [] => True
  | start, (time, later) :: calls =>
    (start ≤ time ∧ D ≤ (time - start) % UInt32.size) ∧ LateEnough D later calls

/-- How many late calls end the song. -/
def remaining (songsList : SongTitle → Song) (r : PlayerRun) : ℕ :=
  2 * ((songsList r.requested).endIndex - r.player.currNoteIndex) + (!r.player.holdNote).toNat

theorem Inv.remaining_pos (h : Inv songsList r) (hsong : r.player.currentSongTitle ≠ .NONE) :
    0 < remaining songsList r := by
  obtain ⟨-, -, hindex⟩ := h.of_active hsong
  unfold remaining
  cases hhold : r.player.holdNote with
  | false => simp
  | true =>
    rw [hhold, Bool.toNat_true] at hindex
    omega

/-- A late call ends the song, or brings it nearer to its end. -/
theorem Inv.late_call {D start : ℕ} (h : Inv songsList r) (time later : ℕ) (hplays : r.player.Plays)
    (hD : ∀ note ∈ (songsList r.requested).songNotes,
      (songsList r.requested).wholeDuration note ≤ D)
    (hstart : r.player.holdNote = true → r.lastSounded = start)
    (hlate : start ≤ time ∧ D ≤ (time - start) % UInt32.size) :
    ∃ r', PlayerRun.next songsList r (.playMusic time later) = some r' ∧ Inv songsList r' ∧
      r'.requested = r.requested ∧
      (r'.ending = .reachedEnd time ∨
        r'.player.currentSongTitle ≠ .NONE ∧ r'.player.isCurrSongPaused = false ∧
        remaining songsList r = remaining songsList r' + 1 ∧
        (r'.player.holdNote = true → r'.lastSounded = later)) := by
  obtain ⟨r', hnext, hstep⟩ := h.playMusic time later
  refine ⟨r', hnext, hstep.inv h, ?_⟩
  have hactive := h.of_active hplays.1
  cases hstep with
  | idle hidle => exact absurd hplays hidle
  | hold note hhold hnote hearly =>
    -- the clock has counted enough for every note
    obtain ⟨start', hs, hlong⟩ := h.held_note hhold hnote
    obtain rfl : start' = start := by simpa [lastSounded, hs] using hstart hhold
    have hle := le_trans (hD note (List.mem_of_getElem? hnote)) hlate.2
    exact absurd ((hlong time hlate.1).2 hle) (UInt32.not_le.2 hearly)
  | advance note hhold hnote hlate =>
    rw [hhold, Bool.toNat_true] at hactive
    refine ⟨rfl, Or.inr ⟨hplays.1, hplays.2.1, ?_, nofun⟩⟩
    simp only [remaining, hhold, Bool.not_true, Bool.not_false, Bool.toNat_false, Bool.toNat_true]
    omega
  | sound note hhold hplaying hsong hnote hindex =>
    refine ⟨rfl, Or.inr ⟨hsong, hplays.2.1, ?_, fun _ => rfl⟩⟩
    simp [remaining, hhold]
  | finish hhold hplaying hindex hwatch => exact ⟨rfl, Or.inl rfl⟩

/-- Without a song `playMusic` does nothing. -/
theorem execute_plays_of_done (calls : List (ℕ × ℕ)) (hdone : r.player.currentSongTitle = .NONE) :
    execute songsList r (plays calls) = some r := by
  induction calls with
  | nil => rfl
  | cons call calls ih =>
    have hidle : ¬ r.player.Plays := fun hplays => hplays.1 hdone
    have hnext : next songsList r (.playMusic call.1 call.2) = some r := by
      simp [next, JukeboxPlayer.playMusic_idle hidle, logPlay]
    exact (execute_cons hnext).trans ih

/-- **Enough late calls** end a song whose `END` the watch variable lets the player read. -/
theorem Inv.reaches_end {D start : ℕ} {calls : List (ℕ × ℕ)} (h : Inv songsList r)
    (hsong : r.player.currentSongTitle ≠ .NONE) (hpaused : r.player.isCurrSongPaused = false)
    (hwatch : (songsList r.requested).endIndex ≤ pauseAtIndexWatch)
    (hD : ∀ note ∈ (songsList r.requested).songNotes,
      (songsList r.requested).wholeDuration note ≤ D)
    (hstart : r.player.holdNote = true → r.lastSounded = start)
    (hlate : LateEnough D start calls) (hlength : remaining songsList r ≤ calls.length) :
    ∃ r' time, execute songsList r (plays calls) = some r' ∧ Inv songsList r' ∧
      r'.requested = r.requested ∧ r'.ending = .reachedEnd time := by
  induction calls generalizing r start with
  | nil => exact absurd (h.remaining_pos hsong) (not_lt.2 hlength)
  | cons call calls ih =>
    obtain ⟨-, -, hindex⟩ := h.of_active hsong
    have hplays : r.player.Plays :=
      ⟨hsong, hpaused, le_trans (Nat.le_add_right _ _) (le_trans hindex hwatch)⟩
    obtain ⟨r₁, hnext, h₁, hrequested, hcases⟩ :=
      h.late_call call.1 call.2 hplays hD hstart hlate.1
    have hrun : execute songsList r (plays (call :: calls)) = execute songsList r₁ (plays calls) :=
      execute_cons hnext
    rw [hrun]
    rcases hcases with hend | ⟨hsong₁, hpaused₁, hremaining, hstart₁⟩
    · have hdone : r₁.player.currentSongTitle = .NONE := by
        rw [h₁.title_eq, hend]
        rfl
      exact ⟨r₁, call.1, execute_plays_of_done calls hdone, h₁, hrequested, hend⟩
    · rw [← hrequested] at hwatch hD ⊢
      rw [hremaining, List.length_cons] at hlength
      exact ih h₁ hsong₁ hpaused₁ hwatch hD hstart₁ hlate.2 (Nat.le_of_succ_le_succ hlength)

/-- **The guard stalls** a song whose `END` comes after the watch variable: calls of `playMusic` do
not end it. -/
theorem Inv.stalls {calls : List (ℕ × ℕ)} (h : Inv songsList r)
    (hsong : r.player.currentSongTitle ≠ .NONE)
    (hwatch : pauseAtIndexWatch < (songsList r.requested).endIndex) :
    ∃ r', execute songsList r (plays calls) = some r' ∧
      r'.player.currentSongTitle = r.player.currentSongTitle ∧
      r'.player.isCurrSongPaused = r.player.isCurrSongPaused := by
  induction calls generalizing r with
  | nil => exact ⟨r, rfl, rfl, rfl⟩
  | cons call calls ih =>
    obtain ⟨r₁, hnext, hstep⟩ := h.playMusic call.1 call.2
    have hkeep : r₁.player.currentSongTitle = r.player.currentSongTitle ∧
        r₁.player.isCurrSongPaused = r.player.isCurrSongPaused ∧ r₁.requested = r.requested := by
      cases hstep with
      | idle => exact ⟨rfl, rfl, rfl⟩
      | hold => exact ⟨rfl, rfl, rfl⟩
      | advance => exact ⟨rfl, rfl, rfl⟩
      | sound => exact ⟨rfl, rfl, rfl⟩
      | finish hhold hplaying hindex hle => exact absurd (hindex ▸ hle) (not_le.2 hwatch)
    obtain ⟨htitle, hpaused, hrequested⟩ := hkeep
    obtain ⟨r', hrun, htitle', hpaused'⟩ := ih (hstep.inv h) (by rwa [htitle]) (by rwa [hrequested])
    exact ⟨r', (execute_cons hnext).trans hrun, htitle'.trans htitle, hpaused'.trans hpaused⟩

/-! ### Every song once -/

/-- **A song is played once, to its end**, in every run of a player, at times that do not decrease.
The index does not move past the `END`.  The notes that sounded since the song was requested are its
first notes, each one once, and each one sounded for its duration in `float`, without the fraction
of a millisecond, until the next one or the `END`.  A request is taken if and only if no song is
active.  A song that is active and not paused, and whose `END` is not after the watch variable, is
ended by enough late calls of `playMusic`, with all its notes. -/
theorem song_played_once (songsList : SongTitle → Song) (initSong : SongTitle)
    (events : List PlayerEvent) (htimed : Timed 0 events) :
    ∃ r, execute songsList (construct initSong) events = some r ∧
      (r.player.currentSongTitle = if r.ending = .playing then r.requested else .NONE) ∧
      (r.player.currentSongTitle ≠ .NONE →
        r.player.currNoteIndex ≤ (songsList r.player.currentSongTitle).endIndex) ∧
      (r.sounded.reverse.map Prod.fst =
          (songsList r.requested).songNotes.take r.sounded.length ∧
        r.sounded.length ≤ (songsList r.requested).endIndex ∧
        HeldUntil (wholeHold (songsList r.requested)) r.ending.reached? r.sounded) ∧
      (∀ name, (r.player.requestSong name).1 = true ↔ r.player.currentSongTitle = .NONE) ∧
      (r.player.currentSongTitle ≠ .NONE → r.player.isCurrSongPaused = false →
        (songsList r.player.currentSongTitle).endIndex ≤ pauseAtIndexWatch →
        ∀ D calls, (∀ note ∈ (songsList r.player.currentSongTitle).songNotes,
            (songsList r.player.currentSongTitle).wholeDuration note ≤ D) →
          LateEnough D r.lastSounded calls →
          2 * ((songsList r.player.currentSongTitle).endIndex - r.player.currNoteIndex) + 1 ≤
            calls.length →
          ∃ r' time, execute songsList r (plays calls) = some r' ∧
            r'.player.currentSongTitle = .NONE ∧ r'.ending = .reachedEnd time ∧
            r'.sounded.reverse.map Prod.fst =
              (songsList r.player.currentSongTitle).songNotes.take
                (songsList r.player.currentSongTitle).endIndex) := by
  have hpaced : Paced songsList 0 (construct initSong) := ⟨nofun, trivial, nofun⟩
  obtain ⟨r, clock, hrun, h, hpaced'⟩ := execute_spec (inv_construct initSong) hpaced htimed
  refine ⟨r, hrun, h.title_eq, ?_, ⟨h.notes_eq, h.length_le, hpaced'.heldUntil⟩,
    fun name => r.player.requestSong_fst name, ?_⟩
  · intro hsong
    obtain ⟨-, htitle, hindex⟩ := h.of_active hsong
    rw [htitle]
    exact le_trans (Nat.le_add_right _ _) hindex
  · intro hsong hpaused hwatch D calls hD hlate hlength
    obtain ⟨-, htitle, -⟩ := h.of_active hsong
    rw [htitle] at hwatch hD hlength ⊢
    have hremaining : remaining songsList r ≤ calls.length :=
      le_trans (Nat.add_le_add_left (Bool.toNat_le _) _) hlength
    obtain ⟨r', time, hrun', h', hrequested, hend⟩ :=
      h.reaches_end hsong hpaused hwatch hD (fun _ => rfl) hlate hremaining
    refine ⟨r', time, hrun', ?_, hend, ?_⟩
    · rw [h'.title_eq, hend]
      rfl
    · rw [h'.notes_eq, (h'.reached time hend).1, hrequested]

/-- Six tenths of a second are rounded down. -/
theorem noteDuration_quarter : noteDuration 100 Q_N Q_N = 9830399 / 16384 := by
  decide +kernel

/-- A song of `n` quarter notes. -/
def repeatedSong (n : ℕ) : Song where
  songBPM := 100
  noteTypePerBeat := Q_N
  songNotes := List.replicate n ⟨523, Q_N⟩ ++ [⟨NoteFreq.END, Q_N⟩]
  songBPM_ne := by decide
  noteTypePerBeat_ne := by norm_num [Q_N]
  duration_mem := by
    intro note hmem
    have htiming : note.noteTiming = Q_N := by
      rcases List.mem_append.1 hmem with hmem | hmem
      · rw [List.eq_of_mem_replicate hmem]
      · rw [List.mem_singleton.1 hmem]
    rw [htiming, noteDuration_quarter, show UInt32.size = 4294967296 from rfl]
    norm_num
  terminated := ⟨⟨NoteFreq.END, Q_N⟩, by simp, rfl⟩

theorem endIndex_repeatedSong (n : ℕ) : (repeatedSong n).endIndex = n := by
  have hnotes : (List.replicate n (⟨523, Q_N⟩ : MusicNote)).findIdx
      (fun note => note.frequency == NoteFreq.END) = n := by
    refine (List.findIdx_eq_length.2 fun note hmem => ?_).trans List.length_replicate
    rw [List.eq_of_mem_replicate hmem]
    rfl
  simp [Song.endIndex, repeatedSong, List.findIdx_append, hnotes]

theorem wholeDuration_repeatedSong {n : ℕ} {note : MusicNote}
    (hmem : note ∈ (repeatedSong n).songNotes) : (repeatedSong n).wholeDuration note = 599 := by
  have htiming : note.noteTiming = Q_N := by
    rcases List.mem_append.1 hmem with hmem | hmem
    · rw [List.eq_of_mem_replicate hmem]
    · rw [List.mem_singleton.1 hmem]
  rw [Song.wholeDuration, Song.duration, htiming]
  change ⌊noteDuration 100 Q_N Q_N⌋₊ = 599
  rw [noteDuration_quarter]
  norm_num [Nat.floor_eq_iff]

/-- The run at the first note of such a song. -/
def atFirstNote : PlayerRun where
  player := ⟨0, ⟨523, Q_N⟩, 0, false, true, .PACMAN, 523⟩
  requested := .PACMAN
  sounded := [(⟨523, Q_N⟩, 0)]
  ending := .playing

/-- A song of one note, from the time it is held on. -/
theorem song_played_once_one_note :
    ∃ r r' time, execute (fun _ => repeatedSong 1) (construct .PACMAN) [.playMusic 0 0] = some r ∧
      execute (fun _ => repeatedSong 1) r (plays [(600, 600), (1200, 1200), (1800, 1800)]) =
        some r' ∧
      r'.ending = .reachedEnd time := by
  obtain ⟨r, hrun, -, -, -, -, hend⟩ := song_played_once (fun _ => repeatedSong 1) .PACMAN
    [.playMusic 0 0] ⟨⟨le_rfl, le_rfl⟩, trivial⟩
  have hfirst : execute (fun _ => repeatedSong 1) (construct .PACMAN) [.playMusic 0 0] =
      some atFirstNote := rfl
  obtain rfl := Option.some.inj (hfirst.symm.trans hrun)
  obtain ⟨r', time, hrun', -, hreached, -⟩ := hend nofun rfl (by decide) 599
    [(600, 600), (1200, 1200), (1800, 1800)]
    (fun note hmem => (wholeDuration_repeatedSong hmem).le)
    (by simp [LateEnough, lastSounded, atFirstNote, UInt32.size]) (by decide)
  exact ⟨atFirstNote, r', time, hrun, hrun', hreached⟩

/-- A note of 600 milliseconds is held for 599, as its duration is rounded down in `float` and then
to a whole millisecond; a note is held for less if the song is stopped; and a song of more notes
than the watch variable is never over. -/
theorem song_not_played_once :
    (∃ r, execute (fun _ => repeatedSong 1) (construct .PACMAN)
        (plays [(0, 0), (599, 599), (599, 599)]) = some r ∧ r.ending = .reachedEnd 599 ∧
      ¬ HeldUntil (fun note => exactDuration 100 Q_N note.noteTiming) r.ending.time? r.sounded) ∧
    (∃ r, execute (fun _ => repeatedSong 1) (construct .PACMAN)
        [.playMusic 0 0, .stopCurrentSong 1] = some r ∧ r.ending = .stopped 1 ∧
      ¬ HeldUntil (wholeHold (repeatedSong 1)) r.ending.time? r.sounded) ∧
    ∀ calls, ∃ r, execute (fun _ => repeatedSong 1001) (construct .PACMAN) (plays calls) = some r ∧
      r.player.currentSongTitle = .PACMAN ∧ r.player.isCurrSongPaused = false := by
  have hduration : exactDuration 100 Q_N Q_N = 600 := by decide +kernel
  have hwhole : (repeatedSong 1).wholeDuration ⟨523, Q_N⟩ = 599 :=
    wholeDuration_repeatedSong (List.mem_cons_self)
  refine ⟨⟨⟨⟨0, ⟨NoteFreq.REST, Q_N⟩, 1, false, false, .NONE, NoteFreq.REST⟩, .PACMAN,
      [(⟨523, Q_N⟩, 0)], .reachedEnd 599⟩, by decide +kernel, rfl, ?_⟩,
    ⟨⟨⟨0, ⟨NoteFreq.REST, Q_N⟩, 0, false, false, .NONE, NoteFreq.REST⟩, .PACMAN,
      [(⟨523, Q_N⟩, 0)], .stopped 1⟩, by decide +kernel, rfl, ?_⟩, fun calls => ?_⟩
  · rintro ⟨h, -⟩
    have hheld : ((0 : ℕ) : ℚ) + exactDuration 100 Q_N Q_N ≤ (599 : ℕ) := h 599 rfl
    rw [hduration] at hheld
    norm_num at hheld
  · rintro ⟨h, -⟩
    have hheld := h 1 rfl
    rw [wholeHold, hwhole] at hheld
    norm_num at hheld
  · refine (inv_construct .PACMAN).stalls nofun ?_
    rw [endIndex_repeatedSong]
    decide

end PlayerRun

end Aimbots.Music
