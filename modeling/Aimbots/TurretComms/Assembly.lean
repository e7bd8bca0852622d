import Aimbots.TurretComms.Receiver

/-!
# Assembling a record from frames that may be lost

Frames are fed to the handlers of their kind, in any order, any number of times, with any of them
missing.  `Progress` keeps the frames that the record under assembly has been made of; the
receiver's record is what they decode to (`handle_record`).

A roll frame is accepted if its sequence number is the one of the record.  If at that time the
record is complete and of one sequence number, what is published is consistent
(`published_consistent`).
-/

namespace Aimbots.TurretComms.TurretCommunicator

open Tap

/-- A frame that is received: its kind, which decides the handler, and the message. -/
abbrev Frame := AngularAxis × CanMessage

/-- The structure in the data of a frame. -/
def Frame.data (f : Frame) : AngleMessageData := AngleMessageData.ofData f.2.data

/-- The handler of each kind. -/
def handle (t : TurretCommunicator) (f : Frame) : TurretCommunicator :=
  match f.1 with
  | .YAW_AXIS => t.handleYawDataRX f.2
  | .PITCH_AXIS => t.handlePitchDataRX f.2
  | .ROLL_AXIS => t.handleRollDataRX f.2

/-- The frame is a roll frame that is not turned away. -/
def Publishes (t : TurretCommunicator) (f : Frame) : Prop :=
  f.1 = .ROLL_AXIS ∧ f.data.seq = t.currentIMUData.seq

instance (t : TurretCommunicator) (f : Frame) : Decidable (t.Publishes f) := by
  unfold Publishes; infer_instance

/-- The receiver after frames. -/
def received (t : TurretCommunicator) (frames : List Frame) : TurretCommunicator :=
  frames.foldl handle t

/-- The values that are written into `lastIMUData` while the frames arrive: what is in it behind
each frame that changes it, and behind each roll frame that is not turned away (which may write the
value that is there already). -/
def published (t : TurretCommunicator) : List Frame → List IMUData
  | [] => []
  | f :: fs =>
    let t' := t.handle f
    if t.Publishes f ∨ t'.lastIMUData ≠ t.lastIMUData then t'.lastIMUData :: t'.published fs
    else t'.published fs

/-! ### The frames behind a record -/

/-- The yaw frame and the pitch frame that the record under assembly has been made of. -/
structure Progress where
  yaw : Option AngleMessageData := none
  pitch : Option AngleMessageData := none
deriving DecidableEq, Repr

namespace Progress

/-- The sequence number of the record. -/
def seq (p : Progress) : UInt8 := (p.yaw.map AngleMessageData.seq).getD 0xff

/-- A frame arrives. -/
def next (p : Progress) (f : Frame) : Progress :=
  match f.1 with
  | .YAW_AXIS => { p with yaw := some f.data }
  | .PITCH_AXIS => if f.data.seq = p.seq then { p with pitch := some f.data } else p
  | .ROLL_AXIS => if f.data.seq = p.seq then {} else p

/-- The frames received since the last publication, as they count. -/
def after (frames : List Frame) : Progress := frames.foldl next {}

/-- A decoded field of a frame that need not have been received. -/
def decodeField (factor : ℚ) (field : AngleMessageData → Int16) (d : Option AngleMessageData) : ℚ :=
  (d.map fun d => decode factor (field d)).getD 0

/-- The record under assembly. -/
def record (p : Progress) : IMUData where
  yaw := decodeField ANGLE_PRECISION_FACTOR AngleMessageData.target p.yaw
  yawAngularVelocity := decodeField ANGLE_PRECISION_FACTOR AngleMessageData.angularVelocity p.yaw
  zLinearAcceleration :=
    decodeField LINEAR_PRECISION_FACTOR AngleMessageData.linearAcceleration p.yaw
  pitch := decodeField ANGLE_PRECISION_FACTOR AngleMessageData.target p.pitch
  pitchAngularVelocity :=
    decodeField ANGLE_PRECISION_FACTOR AngleMessageData.angularVelocity p.pitch
  xLinearAcceleration :=
    decodeField LINEAR_PRECISION_FACTOR AngleMessageData.linearAcceleration p.pitch
  seq := p.seq

/-- A roll frame arrives in turn if it is turned away, or if a yaw frame has been received since
the last publication and the pitch frame last accepted has the roll frame's sequence number. -/
def InTurn (p : Progress) (f : Frame) : Prop :=
  f.1 = .ROLL_AXIS → f.data.seq = p.seq →
    p.yaw.isSome ∧ p.pitch.map AngleMessageData.seq = some f.data.seq

end Progress

variable {t : TurretCommunicator} {p : Progress} {f : Frame}

/-- **The handlers keep the record of the progress.** -/
theorem handle_record (h : t.currentIMUData = p.record) (f : Frame) :
    (t.handle f).currentIMUData = (p.next f).record := by
  obtain ⟨axis, msg⟩ := f
  have hseq : t.currentIMUData.seq = p.seq := by rw [h]; rfl
  cases axis with
  | YAW_AXIS =>
    simp only [handle, handleYawDataRX, h]
    rfl
  | PITCH_AXIS =>
    simp only [handle, handlePitchDataRX]
    by_cases hs : (AngleMessageData.ofData msg.data).seq = p.seq
    · have hnext : p.next (.PITCH_AXIS, msg) =
          { p with pitch := some (AngleMessageData.ofData msg.data) } := if_pos hs
      rw [hnext, if_neg (by rw [hseq]; exact not_not.2 hs), h]
      rfl
    · have hnext : p.next (.PITCH_AXIS, msg) = p := if_neg hs
      rw [hnext, if_pos (by rw [hseq]; exact hs), h]
  | ROLL_AXIS =>
    simp only [handle, handleRollDataRX]
    by_cases hs : (AngleMessageData.ofData msg.data).seq = p.seq
    · have hnext : p.next (.ROLL_AXIS, msg) = {} := if_pos hs
      rw [hnext, if_neg (by rw [hseq]; exact not_not.2 hs)]
      rfl
    · have hnext : p.next (.ROLL_AXIS, msg) = p := if_neg hs
      rw [hnext, if_pos (by rw [hseq]; exact hs), h]

/-- The record that a yaw, a pitch and a roll frame make. -/
def assembled (y p r : AngleMessageData) : IMUData where
  yaw := decode ANGLE_PRECISION_FACTOR y.target
  yawAngularVelocity := decode ANGLE_PRECISION_FACTOR y.angularVelocity
  zLinearAcceleration := decode LINEAR_PRECISION_FACTOR y.linearAcceleration
  pitch := decode ANGLE_PRECISION_FACTOR p.target
  pitchAngularVelocity := decode ANGLE_PRECISION_FACTOR p.angularVelocity
  xLinearAcceleration := decode LINEAR_PRECISION_FACTOR p.linearAcceleration
  roll := decode ANGLE_PRECISION_FACTOR r.target
  rollAngularVelocity := decode ANGLE_PRECISION_FACTOR r.angularVelocity
  yLinearAcceleration := decode LINEAR_PRECISION_FACTOR r.linearAcceleration
  seq := r.seq

/-- A published record is consistent with the frames received: it is made of a yaw, a pitch and a
roll frame among them, which have one sequence number. -/
def Consistent (received : List Frame) (e : IMUData) : Prop :=
  ∃ y ∈ received, ∃ p ∈ received, ∃ r ∈ received,
    (y.1 = .YAW_AXIS ∧ p.1 = .PITCH_AXIS ∧ r.1 = .ROLL_AXIS) ∧
    (y.data.seq = r.data.seq ∧ p.data.seq = r.data.seq) ∧ e = assembled y.data p.data r.data

theorem after_append (frames : List Frame) (f : Frame) :
    Progress.after (frames ++ [f]) = (Progress.after frames).next f := by
  rw [Progress.after, List.foldl_append]
  rfl

/-- The yaw frame of the progress is one of the frames that arrived, or an earlier one. -/
theorem yaw_next (p : Progress) (f : Frame) {d : AngleMessageData} (h : (p.next f).yaw = some d) :
    p.yaw = some d ∨ (f.1 = .YAW_AXIS ∧ f.data = d) := by
  obtain ⟨axis, msg⟩ := f
  cases axis with
  | YAW_AXIS => exact Or.inr ⟨rfl, Option.some.inj h⟩
  | PITCH_AXIS =>
    simp only [Progress.next] at h
    split_ifs at h <;> exact Or.inl h
  | ROLL_AXIS =>
    simp only [Progress.next] at h
    split_ifs at h
    exact Or.inl h

theorem pitch_next (p : Progress) (f : Frame) {d : AngleMessageData}
    (h : (p.next f).pitch = some d) :
    p.pitch = some d ∨ (f.1 = .PITCH_AXIS ∧ f.data = d) := by
  obtain ⟨axis, msg⟩ := f
  cases axis with
  | YAW_AXIS => exact Or.inl h
  | PITCH_AXIS =>
    simp only [Progress.next] at h
    split_ifs at h with hs
    · exact Or.inr ⟨rfl, Option.some.inj h⟩
    · exact Or.inl h
  | ROLL_AXIS =>
    simp only [Progress.next] at h
    split_ifs at h
    exact Or.inl h

/-- The frames of the progress have been received. -/
theorem mem_of_after (frames : List Frame) :
    (∀ d, (Progress.after frames).yaw = some d → ∃ f ∈ frames, f.1 = .YAW_AXIS ∧ f.data = d) ∧
    (∀ d, (Progress.after frames).pitch = some d →
      ∃ f ∈ frames, f.1 = .PITCH_AXIS ∧ f.data = d) := by
  induction frames using List.reverseRecOn with
  | nil => exact ⟨fun d h => (by cases h), fun d h => (by cases h)⟩
  | append_singleton frames f ih =>
    rw [after_append]
    have hlast : f ∈ frames ++ [f] := List.mem_append_right _ (List.mem_singleton_self f)
    refine ⟨fun d h => ?_, fun d h => ?_⟩
    · rcases yaw_next _ f h with h | h
      · obtain ⟨g, hg, hd⟩ := ih.1 d h
        exact ⟨g, List.mem_append_left _ hg, hd⟩
      · exact ⟨f, hlast, h⟩
    · rcases pitch_next _ f h with h | h
      · obtain ⟨g, hg, hd⟩ := ih.2 d h
        exact ⟨g, List.mem_append_left _ hg, hd⟩
      · exact ⟨f, hlast, h⟩

/-- **A roll frame that arrives in turn** publishes a consistent record. -/
theorem consistent_of_inTurn {frames : List Frame}
    (h : t.currentIMUData = (Progress.after frames).record) (hpub : t.Publishes f)
    (hturn : (Progress.after frames).InTurn f) :
    Consistent (frames ++ [f]) (t.handle f).lastIMUData := by
  obtain ⟨hroll, hseq⟩ := hpub
  have hcurrent : t.currentIMUData.seq = (Progress.after frames).seq := by rw [h]; rfl
  obtain ⟨hyaw, hpitch⟩ := hturn hroll (hseq.trans hcurrent)
  obtain ⟨y, hy⟩ := Option.isSome_iff_exists.1 hyaw
  obtain ⟨p, hp, hps⟩ := Option.map_eq_some_iff.1 hpitch
  obtain ⟨fy, hfy, hfy₁, rfl⟩ := (mem_of_after frames).1 y hy
  obtain ⟨fp, hfp, hfp₁, rfl⟩ := (mem_of_after frames).2 p hp
  have hys : fy.data.seq = f.data.seq := by
    rw [hseq, hcurrent, Progress.seq, hy]
    rfl
  refine ⟨fy, List.mem_append_left _ hfy, fp, List.mem_append_left _ hfp, f,
    List.mem_append_right _ (List.mem_singleton_self f), ⟨hfy₁, hfp₁, hroll⟩, ⟨hys, hps⟩, ?_⟩
  obtain ⟨axis, msg⟩ := f
  obtain rfl : axis = .ROLL_AXIS := hroll
  have hnot : ¬ (AngleMessageData.ofData msg.data).seq ≠ t.currentIMUData.seq := not_not.2 hseq
  simp only [handle, handleRollDataRX]
  rw [if_neg hnot]
  simp only [h, Progress.record, Progress.decodeField, hy, hp, Option.map_some, Option.getD_some]
  rw [← hcurrent, ← hseq]
  rfl

theorem Consistent.append {received : List Frame} {e : IMUData} (h : Consistent received e)
    (frames : List Frame) : Consistent (received ++ frames) e := by
  obtain ⟨y, hy, p, hp, r, hr, h⟩ := h
  exact ⟨y, List.mem_append_left _ hy, p, List.mem_append_left _ hp, r,
    List.mem_append_left _ hr, h⟩

/-- **Only a roll frame that is not turned away writes into `lastIMUData`.** -/
theorem lastIMUData_handle_of_not_publishes (h : ¬ t.Publishes f) :
    (t.handle f).lastIMUData = t.lastIMUData := by
  obtain ⟨axis, msg⟩ := f
  cases axis with
  | YAW_AXIS => rfl
  | PITCH_AXIS =>
    simp only [handle, handlePitchDataRX]
    split_ifs <;> rfl
  | ROLL_AXIS =>
    have hseq : (AngleMessageData.ofData msg.data).seq ≠ t.currentIMUData.seq :=
      fun hseq => h ⟨rfl, hseq⟩
    simp only [handle, handleRollDataRX, if_pos hseq]

theorem published_of_not_publishes (h : ¬ t.Publishes f) (frames : List Frame) :
    published t (f :: frames) = published (t.handle f) frames := by
  have hlast := lastIMUData_handle_of_not_publishes h
  rw [published, if_neg (not_or.2 ⟨h, not_not.2 hlast⟩)]

theorem published_of_publishes (h : t.Publishes f) (frames : List Frame) :
    published t (f :: frames) = (t.handle f).lastIMUData :: published (t.handle f) frames := by
  rw [published, if_pos (Or.inl h)]

theorem received_append (frames : List Frame) (f : Frame) :
    t.received (frames ++ [f]) = (t.received frames).handle f := by
  rw [received, List.foldl_append]
  rfl

theorem received_record (frames : List Frame) :
    (received {} frames).currentIMUData = (Progress.after frames).record := by
  induction frames using List.reverseRecOn with
  | nil => rfl
  | append_singleton frames f ih =>
    rw [received_append, after_append]
    exact handle_record ih f

/-- What a run writes into `lastIMUData`, by its last frame. -/
theorem published_append (frames : List Frame) (f : Frame) :
    published t (frames ++ [f]) = published t frames ++ published (t.received frames) [f] := by
  induction frames generalizing t with
  | nil => rfl
  | cons g frames ih =>
    simp only [List.cons_append, published, ih, received, List.foldl_cons]
    split_ifs <;> rfl

/-- What one frame writes, if anything, is what is in `lastIMUData` behind it. -/
theorem mem_published_singleton {e : IMUData} (h : e ∈ published t [f]) :
    t.Publishes f ∧ e = (t.handle f).lastIMUData := by
  by_cases hf : t.Publishes f
  · rw [published_of_publishes hf] at h
    exact ⟨hf, List.mem_singleton.1 h⟩
  · rw [published_of_not_publishes hf] at h
    exact absurd h List.not_mem_nil

/-- What `lastIMUData` holds is its default value, or was written into it. -/
theorem lastIMUData_received (frames : List Frame) :
    (received t frames).lastIMUData = t.lastIMUData ∨
      (received t frames).lastIMUData ∈ published t frames := by
  induction frames using List.reverseRecOn with
  | nil => exact Or.inl rfl
  | append_singleton frames f ih =>
    rw [received_append, published_append]
    by_cases hf : (t.received frames).Publishes f
    · refine Or.inr (List.mem_append_right _ ?_)
      rw [published_of_publishes hf]
      exact List.mem_cons_self
    · rw [lastIMUData_handle_of_not_publishes hf]
      exact ih.imp_right fun h => List.mem_append_left _ h

/-- Every roll frame arrives in turn. -/
def AllInTurn (frames : List Frame) : Prop :=
  ∀ before f after, frames = before ++ f :: after → (Progress.after before).InTurn f

theorem AllInTurn.of_append {before after : List Frame} (h : AllInTurn (before ++ after)) :
    AllInTurn before := by
  intro first f rest hbefore
  refine h first f (rest ++ after) ?_
  rw [hbefore, List.append_assoc, List.cons_append]

/-- Whatever is written is consistent with the frames received so far. -/
theorem consistent_of_mem_published {frames : List Frame} (hturn : AllInTurn frames) :
    ∀ e ∈ published {} frames, Consistent frames e := by
  induction frames using List.reverseRecOn with
  | nil => exact fun e he => absurd he List.not_mem_nil
  | append_singleton frames f ih =>
    intro e he
    rw [published_append] at he
    rcases List.mem_append.1 he with he | he
    · exact (ih hturn.of_append e he).append [f]
    · obtain ⟨hpub, rfl⟩ := mem_published_singleton he
      exact consistent_of_inTurn (received_record frames) hpub (hturn frames f [] rfl)

/-- **Frames may be lost, duplicated and reordered** as long as every roll frame arrives in turn:
whatever is written into `lastIMUData` is made of received frames with one sequence number, and in
every state that is reached `lastIMUData` is what it was at the start or is made of frames that have
been received by then. -/
theorem published_consistent (frames : List Frame) (hturn : AllInTurn frames) :
    (∀ e ∈ published {} frames, Consistent frames e) ∧
    ∀ before after, frames = before ++ after →
      (received {} before).lastIMUData = {} ∨
        Consistent before (received {} before).lastIMUData := by
  refine ⟨consistent_of_mem_published hturn, fun before after hframes => ?_⟩
  subst hframes
  exact (lastIMUData_received before).imp_right
    (consistent_of_mem_published hturn.of_append _)

/-- The frame of a kind with the given structure. -/
def frameOf (axis : AngularAxis) (d : AngleMessageData) : Frame :=
  (axis, ⟨(frameID axis).toUInt32, 7, d.toData (Vector.replicate 8 0)⟩)

theorem published_consistent_snapshot :
    let frames := [frameOf .YAW_AXIS ⟨1, 2, 3, 7⟩, frameOf .PITCH_AXIS ⟨4, 5, 6, 7⟩,
      frameOf .ROLL_AXIS ⟨7, 8, 9, 7⟩]
    published {} frames ≠ [] ∧
    (∀ e ∈ published {} frames, Consistent frames e) ∧
    ∀ before after, frames = before ++ after →
      (received {} before).lastIMUData = {} ∨
        Consistent before (received {} before).lastIMUData := by
  refine ⟨?_, published_consistent _ fun before f after h => ?_⟩
  · have hyaw : ¬ Publishes {} (frameOf .YAW_AXIS ⟨1, 2, 3, 7⟩) := by decide
    have hpitch : ¬ Publishes (handle {} (frameOf .YAW_AXIS ⟨1, 2, 3, 7⟩))
        (frameOf .PITCH_AXIS ⟨4, 5, 6, 7⟩) := fun h => AngularAxis.noConfusion h.1
    have hroll : Publishes (handle (handle {} (frameOf .YAW_AXIS ⟨1, 2, 3, 7⟩))
        (frameOf .PITCH_AXIS ⟨4, 5, 6, 7⟩)) (frameOf .ROLL_AXIS ⟨7, 8, 9, 7⟩) := by
      refine ⟨rfl, ?_⟩
      decide
    rw [published_of_not_publishes hyaw, published_of_not_publishes hpitch,
      published_of_publishes hroll]
    exact List.cons_ne_nil _ _
  · rcases before with _ | ⟨y, _ | ⟨p, _ | ⟨r, before⟩⟩⟩
    · simp only [List.nil_append, List.cons.injEq] at h
      obtain ⟨rfl, -⟩ := h
      intro hroll
      cases hroll
    · simp only [List.cons_append, List.nil_append, List.cons.injEq] at h
      obtain ⟨-, rfl, -⟩ := h
      intro hroll
      cases hroll
    · simp only [List.cons_append, List.nil_append, List.cons.injEq] at h
      obtain ⟨rfl, rfl, rfl, -⟩ := h
      intro _ _
      decide
    · exact absurd (congrArg List.length h) (by simp)

/-- The pitch frame of a snapshot is lost: what is published has no pitch frame behind it. -/
theorem published_without_pitch :
    published {} [frameOf .YAW_AXIS ⟨1, 2, 3, 0⟩, frameOf .ROLL_AXIS ⟨7, 8, 9, 0⟩] ≠ [] ∧
    ∀ e ∈ published {} [frameOf .YAW_AXIS ⟨1, 2, 3, 0⟩, frameOf .ROLL_AXIS ⟨7, 8, 9, 0⟩],
      ¬ Consistent [frameOf .YAW_AXIS ⟨1, 2, 3, 0⟩, frameOf .ROLL_AXIS ⟨7, 8, 9, 0⟩] e := by
  refine ⟨?_, fun e he => ?_⟩
  · have hyaw : ¬ Publishes {} (frameOf .YAW_AXIS ⟨1, 2, 3, 0⟩) := by decide
    have hroll : Publishes (handle {} (frameOf .YAW_AXIS ⟨1, 2, 3, 0⟩))
        (frameOf .ROLL_AXIS ⟨7, 8, 9, 0⟩) := by
      refine ⟨rfl, ?_⟩
      decide
    rw [published_of_not_publishes hyaw, published_of_publishes hroll]
    exact List.cons_ne_nil _ _
  · rintro ⟨y, -, p, hp, r, -, ⟨-, hpitch, -⟩, -⟩
    rcases List.mem_cons.1 hp with rfl | hp
    · cases hpitch
    · rw [List.mem_singleton.1 hp] at hpitch
      cases hpitch

end Aimbots.TurretComms.TurretCommunicator
