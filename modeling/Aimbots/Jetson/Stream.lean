import Aimbots.Jetson.Communicator

/-!
# What the receiver makes of a stream

For every stream of bytes, cut into calls of `updateSerial` in any way, the messages decoded are
the reference segmentation of the stream.  On a stream of messages behind arbitrary bytes the
receiver need not fall in step with the messages: the magic number may occur inside them.  It does
so after the first message that has no other byte equal to the magic number.
-/

namespace Aimbots.Jetson

namespace JetsonMessage

/-- The bytes of a message behind the magic number. -/
def payload (m : JetsonMessage) : List UInt8 := m.toBytes.toList.tail

theorem isFrame_toBytes {m : JetsonMessage} (h : m.magic = JETSON_MESSAGE_MAGIC) :
    Framing.IsFrame JETSON_MESSAGE_MAGIC 14 m.toBytes.toList := by
  refine ⟨m.payload, ?_, by simp [payload]⟩
  rw [← h]
  rfl

/-- A stream of messages. -/
def stream (messages : List JetsonMessage) : List UInt8 :=
  (messages.map fun m => m.toBytes.toList).flatten

theorem isFrame_of_mem {messages : List JetsonMessage}
    (h : ∀ m ∈ messages, m.magic = JETSON_MESSAGE_MAGIC) :
    ∀ f ∈ messages.map fun m => m.toBytes.toList, Framing.IsFrame JETSON_MESSAGE_MAGIC 14 f := by
  intro f hf
  obtain ⟨m, hm, rfl⟩ := List.mem_map.1 hf
  exact isFrame_toBytes (h m hm)

theorem map_toBytes_injective :
    Function.Injective (List.map fun m : JetsonMessage => m.toBytes.toList) :=
  List.map_injective_iff.2 fun _ _ h => toBytes_injective (Vector.toList_inj.1 h)

end JetsonMessage

namespace JetsonCommunicator

open JetsonMessage

variable {C : Type*} {s : JetsonCommunicator C}

/-- **The stream is segmented as the reference does**, no access leaves the buffer, and between two
calls the last message is the last one decoded. -/
theorem run_segments (updateTargetInfo : UInt32 → C → Position → UInt8 → C) (c : C)
    (buffer : Vector UInt8 JETSON_MESSAGE_SIZE) (time now : UInt32) (position : Position)
    (calls : List SerialCall) :
    ∃ s messages,
      ((construct c buffer time position).init now).run updateTargetInfo calls =
        some (s, messages) ∧
      (messages.map fun m => m.toBytes.toList) =
        Framing.frames JETSON_MESSAGE_MAGIC 14 (received calls) ∧
      s.lastMessage = messages.getLast?.getD ⟨0, 0, 0, 0, 0, 0⟩ ∧
      (s.currentSerialState = .SearchingForMagic → s.nextByteIndex = 0) ∧
      (s.currentSerialState = .AssemblingMessage →
        1 ≤ s.nextByteIndex ∧ s.nextByteIndex ≤ 14) := by
  obtain ⟨s, messages, hrun, hinv, hlast, hframes⟩ :=
    run_refines updateTargetInfo
      (inv_construct c buffer time now position) calls
  refine ⟨s, messages, hrun, ?_, hlast, hinv.searching, hinv.assembling⟩
  exact (congrArg Prod.snd hframes).trans
    (Framing.run_eq_frames (by omega) Framing.isPending_nil)

/-- Between two messages, every message of a stream is decoded as it was sent. -/
theorem run_stream (updateTargetInfo : UInt32 → C → Position → UInt8 → C) (h : s.Inv)
    (hstate : s.currentSerialState = .SearchingForMagic)
    {sent : List JetsonMessage} (hmagic : ∀ m ∈ sent, m.magic = JETSON_MESSAGE_MAGIC)
    {calls : List SerialCall} (hcalls : received calls = stream sent) :
    ∃ s', s.run updateTargetInfo calls = some (s', sent) ∧ s'.Inv ∧ s'.pending = [] := by
  obtain ⟨s', messages, hrun, hinv, -, hframes⟩ :=
    run_refines updateTargetInfo h calls
  have hnil : s.pending = [] := by rw [pending, h.searching hstate, List.take_zero]
  rw [hcalls, hnil, stream, Framing.run_flatten (by omega) (isFrame_of_mem hmagic)] at hframes
  obtain ⟨hp, hm⟩ := Prod.mk.inj hframes
  obtain rfl := map_toBytes_injective hm
  exact ⟨s', hrun, hinv, hp⟩

theorem searching_of_pending (h : s.Inv) (hp : s.pending = []) :
    s.currentSerialState = .SearchingForMagic := by
  cases hstate : s.currentSerialState with
  | SearchingForMagic => rfl
  | AssemblingMessage =>
    have hlen := length_pending h
    have hpos := (h.assembling hstate).1
    rw [hp, List.length_nil] at hlen
    omega

/-- **Where one message leaves the receiver**: between two messages exactly if none of its last
`nextByteIndex` bytes is the magic number; the message under assembly takes the others. -/
theorem run_message_searching_iff (updateTargetInfo : UInt32 → C → Position → UInt8 → C)
    (h : s.Inv) {m : JetsonMessage}
    (hmagic : m.magic = JETSON_MESSAGE_MAGIC) {calls : List SerialCall}
    (hcalls : received calls = m.toBytes.toList) :
    ∃ s' messages, s.run updateTargetInfo calls = some (s', messages) ∧ s'.Inv ∧
      (s'.currentSerialState = .SearchingForMagic ↔
        JETSON_MESSAGE_MAGIC ∉ m.toBytes.toList.drop (15 - s.nextByteIndex)) := by
  obtain ⟨s', messages, hrun, hinv, -, hframes⟩ :=
    run_refines updateTargetInfo h calls
  refine ⟨s', messages, hrun, hinv, ?_⟩
  have hfst := congrArg Prod.fst hframes
  have hiff := Framing.run_frame_eq_nil_iff (by omega) (isPending_pending h)
    (isFrame_toBytes hmagic)
  rw [hcalls] at hfst
  rw [← hfst, length_pending h] at hiff
  rw [← hiff]
  exact ⟨fun hs => by rw [pending, hinv.searching hs, List.take_zero], searching_of_pending hinv⟩

/-- **The receiver falls in step** with a stream of messages, behind any bytes, after the first
message whose payload is free of the magic number: from then on it decodes every message as it was
sent, and nothing else. -/
theorem run_resynchronises (updateTargetInfo : UInt32 → C → Position → UInt8 → C) (c : C)
    (buffer : Vector UInt8 JETSON_MESSAGE_SIZE) (time now : UInt32) (position : Position)
    {garbage : List UInt8} {sent : List JetsonMessage} {K : ℕ} {before after : List SerialCall}
    (hmagic : ∀ m ∈ sent, m.magic = JETSON_MESSAGE_MAGIC)
    (hfree : ∃ m ∈ sent.take K, JETSON_MESSAGE_MAGIC ∉ m.payload)
    (hbefore : received before = garbage ++ stream (sent.take K))
    (hafter : received after = stream (sent.drop K)) :
    ∃ s decoded s',
      ((construct c buffer time position).init now).run updateTargetInfo before =
        some (s, decoded) ∧
      s.currentSerialState = .SearchingForMagic ∧
      s.run updateTargetInfo after = some (s', sent.drop K) := by
  obtain ⟨s, decoded, hrun, hinv, -, hframes⟩ :=
    run_refines updateTargetInfo
      (inv_construct c buffer time now position) before
  have hnil : s.pending = [] := by
    have hfst : s.pending = _ := congrArg Prod.fst hframes
    rw [hfst, hbefore, Framing.run_append]
    refine Framing.run_flatten_eq_nil (by omega)
      (Framing.isPending_run (by omega) Framing.isPending_nil)
      (isFrame_of_mem fun m hm => hmagic m (List.mem_of_mem_take hm)) ?_
    obtain ⟨m, hm, hfree⟩ := hfree
    exact ⟨_, List.mem_map_of_mem hm, hfree⟩
  have hstate := searching_of_pending hinv hnil
  obtain ⟨s', hrun', -⟩ := run_stream updateTargetInfo hinv hstate
    (fun m hm => hmagic m (List.mem_of_mem_drop hm)) hafter
  exact ⟨s, decoded, s', hrun, hstate, hrun'⟩

/-- The calls that find the bytes of a list, one after the other. -/
def callsOf (bytes : List UInt8) : List SerialCall := bytes.map fun b => ⟨0, 0, some b⟩

theorem received_callsOf (bytes : List UInt8) : received (callsOf bytes) = bytes := by
  induction bytes with
  | nil => rfl
  | cons b bytes ih =>
    show b :: received (callsOf bytes) = b :: bytes
    rw [ih]

theorem run_resynchronises_two :
    ∃ s decoded s',
      ((construct () (Vector.replicate 15 0) 0 ⟨0, 0, 0⟩).init 0).run (fun _ c _ _ => c)
        (callsOf ([0x61, 1] ++ stream ([⟨0x61, 1, 2, 3, 4, 1⟩, ⟨0x61, 1, 2, 3, 0x61, 2⟩].take 1))) =
          some (s, decoded) ∧
      s.currentSerialState = .SearchingForMagic ∧
      s.run (fun _ c _ _ => c)
        (callsOf (stream ([⟨0x61, 1, 2, 3, 4, 1⟩, ⟨0x61, 1, 2, 3, 0x61, 2⟩].drop 1))) =
          some (s', [⟨0x61, 1, 2, 3, 4, 1⟩, ⟨0x61, 1, 2, 3, 0x61, 2⟩].drop 1) :=
  run_resynchronises (fun _ c _ _ => c) () (Vector.replicate 15 0) 0 0 ⟨0, 0, 0⟩ (by decide)
    ⟨_, List.mem_cons_self, by decide⟩ (received_callsOf _) (received_callsOf _)

/-- A message whose delay reads as the magic number: behind two bytes of another message, the
receiver takes its first thirteen bytes to complete that one, and keeps its last two. -/
def echo : JetsonMessage := ⟨0x61, 0, 0, 0, 0x61, 1⟩

theorem run_echo : Framing.run JETSON_MESSAGE_MAGIC 14 [0x61, 1] echo.toBytes.toList =
    ([0x61, 1], [[0x61, 1, 0x61, 0, 0, 0, 0, 0, 0, 0, 0, 0, 0, 0, 0]]) := by
  decide

theorem run_echoes (n : ℕ) :
    (Framing.run JETSON_MESSAGE_MAGIC 14 [0x61, 1] (stream (List.replicate n echo))).1 =
      [0x61, 1] := by
  induction n with
  | zero => rfl
  | succ n ih =>
    rw [List.replicate_succ, stream, List.map_cons, List.flatten_cons, Framing.run_append, run_echo]
    exact ih

/-- No number of messages is enough: behind `[0x61, 1]`, a stream of `echo` is never decoded. -/
theorem no_bound_resynchronises :
    ¬ ∃ K : ℕ, ∀ (garbage : List UInt8) (sent : List JetsonMessage)
      (before after : List SerialCall),
      (∀ m ∈ sent, m.magic = JETSON_MESSAGE_MAGIC) →
      received before = garbage ++ stream (sent.take K) →
      received after = stream (sent.drop K) →
      ∃ s decoded s',
        ((construct () (Vector.replicate 15 0) 0 ⟨0, 0, 0⟩).init 0).run (fun _ c _ _ => c) before =
          some (s, decoded) ∧
        s.run (fun _ c _ _ => c) after = some (s', sent.drop K) := by
  rintro ⟨K, hK⟩
  obtain ⟨s, decoded, s', hbefore, hafter⟩ := hK [0x61, 1] (List.replicate (K + 1) echo)
    (callsOf ([0x61, 1] ++ stream (List.replicate K echo))) (callsOf (stream [echo]))
    (fun m hm => by rw [List.eq_of_mem_replicate hm]; rfl)
    (by rw [received_callsOf, List.take_replicate, Nat.min_eq_left (Nat.le_succ K)])
    (by rw [received_callsOf, List.drop_replicate, Nat.add_sub_cancel_left]; rfl)
  obtain ⟨s₁, decoded₁, hrun₁, hinv, -, hframes₁⟩ :=
    run_refines (fun _ c _ _ => c)
      (inv_construct () (Vector.replicate 15 0) 0 0 ⟨0, 0, 0⟩)
      (callsOf ([0x61, 1] ++ stream (List.replicate K echo)))
  obtain ⟨rfl, rfl⟩ := Prod.mk.inj (Option.some.inj (hrun₁.symm.trans hbefore))
  obtain ⟨s₂, decoded₂, hrun₂, -, -, hframes₂⟩ :=
    run_refines (fun _ c _ _ => c) hinv (callsOf (stream [echo]))
  obtain ⟨rfl, rfl⟩ := Prod.mk.inj (Option.some.inj (hrun₂.symm.trans hafter))
  have hpending : s₁.pending = [0x61, 1] := by
    have hfst : s₁.pending = _ := congrArg Prod.fst hframes₁
    rw [hfst, received_callsOf, Framing.run_append]
    exact run_echoes K
  have hsnd := congrArg Prod.snd hframes₂
  rw [received_callsOf, hpending, stream, List.map_singleton, List.flatten_singleton, run_echo,
    List.drop_replicate, Nat.add_sub_cancel_left] at hsnd
  exact absurd hsnd (show (List.replicate 1 echo).map (fun m => m.toBytes.toList) ≠
    [[0x61, 1, 0x61, 0, 0, 0, 0, 0, 0, 0, 0, 0, 0, 0, 0]] by decide)

end JetsonCommunicator

end Aimbots.Jetson
