import Aimbots.Library.Numerals
import Aimbots.Library.Rounding
import Mathlib.Algebra.Order.Floor.Semiring
import Mathlib.Data.Rat.Floor
import Mathlib.Tactic.NormNum

/-!
# `utils/music/jukebox_player.cpp`

`playMusic` is called again and again.  A call sounds the note at the index, or waits until this
note was held for its duration and then goes on to the next index, or comes to the `END` and frees
the player.  A request is taken if no song is active.  A call does nothing while the index is above
that of a watch variable.
-/

namespace Aimbots.Music

open scoped Numerals

/-! ### Songs -/

/-- `SongTitle`. -/
inductive SongTitle
  | NONE
  | PACMAN
  | WE_ARE_NUMBER_ONE
  | CHAINSAW_MAN
  | MYSTERY
  | CRAB_RAVE
  | ZELDA
  | LG_WASH
deriving DecidableEq

namespace NoteFreq

/-- `NoteFreq::REST`. -/
def REST : UInt32 := 0

/-- `NoteFreq::END`. -/
def END : UInt32 := 4294967295

end NoteFreq

/-- A quarter note. -/
def Q_N : ℚ := 1 / 4

/-- `MusicNote`. -/
structure MusicNote where
  frequency : UInt32
  noteTiming : ℚ
deriving DecidableEq

/-- `float`. -/
abbrev float : ℚ → ℚ := Format.binary32.round

/-- How long a note lasts, in milliseconds, over exact numbers. -/
def exactDuration (songBPM : UInt32) (noteTypePerBeat noteTiming : ℚ) : ℚ :=
  1 / songBPM.toNat * 60 * 1000 * (noteTiming / noteTypePerBeat)

/-- How long a note lasts, in milliseconds, as `playMusic` computes it in `float`. -/
def noteDuration (songBPM : UInt32) (noteTypePerBeat noteTiming : ℚ) : ℚ :=
  float (float (float (float (1 / float songBPM.toNat) * 60) * 1000) *
    float (noteTiming / noteTypePerBeat))

/-- `Song`.  Its notes come to an `END`, and the duration of every note can be converted to
`uint32_t`. -/
structure Song where
  songBPM : UInt32
  noteTypePerBeat : ℚ
  songNotes : List MusicNote
  songBPM_ne : songBPM ≠ 0
  noteTypePerBeat_ne : noteTypePerBeat ≠ 0
  duration_mem : ∀ note ∈ songNotes,
    -1 < noteDuration songBPM noteTypePerBeat note.noteTiming ∧
      noteDuration songBPM noteTypePerBeat note.noteTiming < UInt32.size
  terminated : ∃ note ∈ songNotes, note.frequency = NoteFreq.END

namespace Song

variable (song : Song)

/-- The duration of a note of a song, in `float`. -/
def duration (note : MusicNote) : ℚ :=
  noteDuration song.songBPM song.noteTypePerBeat note.noteTiming

/-- The duration without its fraction of a millisecond. -/
def wholeDuration (note : MusicNote) : ℕ := ⌊song.duration note⌋₊

/-- `MS_HOLD_FOR_NOTE`. -/
def MS_HOLD_FOR_NOTE (note : MusicNote) : UInt32 := UInt32.ofNat (song.wholeDuration note)

/-- The index of the `END`. -/
def endIndex : ℕ := song.songNotes.findIdx fun note => note.frequency == NoteFreq.END

theorem endIndex_lt : song.endIndex < song.songNotes.length := by
  obtain ⟨note, hmem, hend⟩ := song.terminated
  exact List.findIdx_lt_length_of_exists ⟨note, hmem, beq_iff_eq.2 hend⟩

/-- The notes up to the `END` are there, and it is the first of them that is an `END`. -/
theorem exists_note {i : ℕ} (hi : i ≤ song.endIndex) :
    ∃ note, song.songNotes[i]? = some note ∧ note ∈ song.songNotes ∧
      (note.frequency = NoteFreq.END ↔ i = song.endIndex) := by
  have hlt : i < song.songNotes.length := lt_of_le_of_lt hi song.endIndex_lt
  refine ⟨song.songNotes[i], List.getElem?_eq_getElem hlt, List.getElem_mem hlt, ?_⟩
  constructor
  · intro hend
    by_contra hne
    have hbefore := List.not_of_lt_findIdx (lt_of_le_of_ne hi hne)
    exact absurd (beq_iff_eq.2 hend) (by simpa using hbefore)
  · rintro rfl
    exact beq_iff_eq.1 (List.findIdx_getElem (w := song.endIndex_lt))

theorem toNat_MS_HOLD_FOR_NOTE {note : MusicNote} (hmem : note ∈ song.songNotes) :
    (song.MS_HOLD_FOR_NOTE note).toNat = song.wholeDuration note := by
  have hlt : song.wholeDuration note < UInt32.size :=
    (Nat.floor_lt' (by decide)).2 (song.duration_mem note hmem).2
  exact UInt32.toNat_ofNat_of_lt' hlt

end Song

/-! ### The player -/

/-- `JukeboxPlayer`, with the frequency that its buzzer plays. -/
structure JukeboxPlayer where
  prevTime : UInt32
  prevNote : MusicNote
  currNoteIndex : ℕ
  isCurrSongPaused : Bool
  holdNote : Bool
  currentSongTitle : SongTitle
  buzzer : UInt32
deriving DecidableEq

/-- `pauseAtIndexWatch`. -/
def pauseAtIndexWatch : ℕ := 1000

namespace JukeboxPlayer

/-- The constructors: the one without a song is the one with `NONE`. -/
def construct (initSong : SongTitle) : JukeboxPlayer where
  prevTime := 0
  prevNote := ⟨NoteFreq.REST, Q_N⟩
  currNoteIndex := 0
  isCurrSongPaused := false
  holdNote := false
  currentSongTitle := initSong
  buzzer := NoteFreq.REST

variable (songsList : SongTitle → Song) (p : JukeboxPlayer)

/-- `isPaused`. -/
def isPaused : Bool := p.isCurrSongPaused

/-- `pause`. -/
def pause : JukeboxPlayer := { p with isCurrSongPaused := true }

/-- `unpause`. -/
def unpause : JukeboxPlayer := { p with isCurrSongPaused := false }

/-- `isCurrentSongDone`. -/
def isCurrentSongDone : Bool := decide (p.currentSongTitle = .NONE)

/-- `requestSong`. -/
def requestSong (name : SongTitle) : Bool × JukeboxPlayer :=
  if p.isCurrentSongDone then
    (true, { p.unpause with currNoteIndex := 0, currentSongTitle := name })
  else (false, p)

/-- `stopCurrentSong`. -/
def stopCurrentSong : JukeboxPlayer :=
  { p with
    buzzer := NoteFreq.REST
    prevNote := ⟨NoteFreq.REST, Q_N⟩
    holdNote := false
    currentSongTitle := .NONE }

/-- `playMusic`, which reads the clock once when it begins and once when it sounds a note.  It has
no result where it reads past the notes. -/
def playMusic (currentTime later : UInt32) : Option JukeboxPlayer :=
  if p.isCurrentSongDone || p.isPaused || p.currNoteIndex > pauseAtIndexWatch then some p
  else
    let timeSinceLast := currentTime - p.prevTime
    let currentSong := songsList p.currentSongTitle
    currentSong.songNotes[p.currNoteIndex]?.map fun currentNote =>
      if p.holdNote then
        if timeSinceLast ≥ currentSong.MS_HOLD_FOR_NOTE currentNote then
          { p with currNoteIndex := p.currNoteIndex + 1, holdNote := false }
        else p
      else if currentNote.frequency = NoteFreq.END then p.stopCurrentSong
      else
        { p with
          prevTime := later
          buzzer := currentNote.frequency
          prevNote := currentNote
          holdNote := true }

/-- A call of `playMusic` does something. -/
def Plays : Prop :=
  p.currentSongTitle ≠ .NONE ∧ p.isCurrSongPaused = false ∧ p.currNoteIndex ≤ pauseAtIndexWatch

variable {songsList p} {currentTime later : UInt32} {note : MusicNote}

theorem playMusic_idle (h : ¬ p.Plays) : p.playMusic songsList currentTime later = some p := by
  refine if_pos ?_
  unfold Plays at h
  simp only [isCurrentSongDone, isPaused, Bool.or_eq_true, decide_eq_true_eq]
  by_contra hnot
  push Not at hnot
  exact h ⟨hnot.1.1, Bool.eq_false_iff.2 hnot.1.2, hnot.2⟩

/-- **What a call does** at a note of the song. -/
theorem playMusic_plays (h : p.Plays)
    (hnote : (songsList p.currentSongTitle).songNotes[p.currNoteIndex]? = some note) :
    p.playMusic songsList currentTime later = some
      (if p.holdNote then
        if (songsList p.currentSongTitle).MS_HOLD_FOR_NOTE note ≤ currentTime - p.prevTime then
          { p with currNoteIndex := p.currNoteIndex + 1, holdNote := false }
        else p
      else if note.frequency = NoteFreq.END then p.stopCurrentSong
      else { p with
        prevTime := later, buzzer := note.frequency, prevNote := note, holdNote := true }) := by
  obtain ⟨htitle, hpaused, hindex⟩ := h
  have hguard : ¬ (p.isCurrentSongDone || p.isPaused || p.currNoteIndex > pauseAtIndexWatch) := by
    simp [isCurrentSongDone, isPaused, htitle, hpaused, hindex]
  unfold playMusic
  rw [if_neg hguard]
  simp only [hnote, Option.map_some, ge_iff_le]

theorem requestSong_fst (name : SongTitle) :
    (p.requestSong name).1 = true ↔ p.currentSongTitle = .NONE := by
  unfold requestSong isCurrentSongDone
  split_ifs with h <;> simpa using h

end JukeboxPlayer

end Aimbots.Music
