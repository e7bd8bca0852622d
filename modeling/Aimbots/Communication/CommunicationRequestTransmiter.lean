import Mathlib.Data.BitVec
import Aimbots.Library.Numerals
import Aimbots.Library.RoundRobin
import Aimbots.Library.Run

/-!
# `communication_request_transmiter.cpp`: the queue of team messages

`send()` is a protothread: it sends the queued messages one after another, each in as many calls as
`sendRobotToRobotMsg` takes, and yields if none is queued.  Then it clears the bit of
`lastSentMessage`, whether it has sent it or not.  `served_iff` says which requests are lost.
-/

namespace Aimbots.Communication

open RoundRobin Run
open scoped Numerals

/-- Whether `TARGET_SENTRY` is defined. -/
inductive Target
  | sentry
  | other
deriving DecidableEq, Repr

/-- `MessageType::NUM_MESSAGE_TYPES`. -/
def NUM_MESSAGE_TYPES : Target → ℕ
  | .sentry => 3
  | .other => 2

/-- The message types before `NUM_MESSAGE_TYPES`: `TEAM_MESSAGE_STANDARD`, `TEAM_MESSAGE_HERO` and
`TEAM_MESSAGE_SENTRY`, or `ROBOT_STATE` and `ENEMY_STATE`. -/
abbrev MessageType (target : Target) : Type := Fin (NUM_MESSAGE_TYPES target)

variable {target : Target}

theorem NUM_MESSAGE_TYPES_le : ∀ target, NUM_MESSAGE_TYPES target ≤ 32
  | .sentry => by decide
  | .other => by decide

theorem NUM_MESSAGE_TYPES_pos : ∀ target, 0 < NUM_MESSAGE_TYPES target
  | .sentry => by decide
  | .other => by decide

/-- The bit of a message type. -/
def bit (type : MessageType target) : BitVec 32 := 1#32 <<< (type : ℕ)

@[simp] theorem getLsbD_bit (type : MessageType target) (i : ℕ) :
    (bit type).getLsbD i = decide (i = type) := by
  have hlt : (type : ℕ) < 32 := type.isLt.trans_le (NUM_MESSAGE_TYPES_le target)
  rw [bit, ← BitVec.twoPow_eq, BitVec.getLsbD_twoPow, decide_eq_true hlt, Bool.true_and]
  exact decide_eq_decide.2 eq_comm

theorem exists_getLsbD_of_ne_zero {q : BitVec 32} (h : q ≠ 0#32) : ∃ i, q.getLsbD i = true := by
  by_contra hnone
  refine h (BitVec.eq_of_getLsbD_eq fun i _ => ?_)
  rw [BitVec.getLsbD_zero]
  exact Bool.eq_false_iff.2 fun htrue => hnone ⟨i, htrue⟩

/-- The message type is queued. -/
def isQueued (queue : BitVec 32) (type : MessageType target) : Bool :=
  decide (queue &&& bit type ≠ 0#32)

theorem isQueued_eq (queue : BitVec 32) (type : MessageType target) :
    isQueued queue type = queue.getLsbD type := by
  rw [isQueued]
  cases hbit : queue.getLsbD type with
  | false =>
    refine decide_eq_false (not_not.2 (BitVec.eq_of_getLsbD_eq fun i _ => ?_))
    rw [BitVec.getLsbD_and, getLsbD_bit, BitVec.getLsbD_zero]
    by_cases hi : i = type
    · rw [hi, hbit, Bool.false_and]
    · rw [decide_eq_false hi, Bool.and_false]
  | true =>
    refine decide_eq_true fun hzero => ?_
    have hfalse := congrArg (fun q => BitVec.getLsbD q type) hzero
    simp [hbit] at hfalse

/-- Where `send()` goes on: `ptState`. -/
inductive PtState
  | start
  | call
  | yield
deriving DecidableEq, Repr

/-- The data members of `CommunicationRequestTransmiter`; only bits of message types are set. -/
structure CommunicationRequestTransmiter (target : Target) where
  lastSentMessage : MessageType target
  queuedMessageType : BitVec 32
  ptState : PtState
  valid : ∀ i, NUM_MESSAGE_TYPES target ≤ i → queuedMessageType.getLsbD i = false

namespace CommunicationRequestTransmiter

/-- The constructor. -/
def construct (target : Target) : CommunicationRequestTransmiter target :=
  ⟨⟨0, NUM_MESSAGE_TYPES_pos target⟩, 0#32, .start, fun _ _ => BitVec.getLsbD_zero⟩

variable (tx : CommunicationRequestTransmiter target)

/-- A message type other than `lastSentMessage` is queued. -/
def Others : Prop := tx.queuedMessageType &&& ~~~bit tx.lastSentMessage ≠ 0#32

instance : Decidable tx.Others :=
  inferInstanceAs (Decidable (tx.queuedMessageType &&& ~~~bit tx.lastSentMessage ≠ 0#32))

variable {tx}

theorem Others.exists_queued (h : tx.Others) :
    ∃ type, type ≠ tx.lastSentMessage ∧ isQueued tx.queuedMessageType type = true := by
  obtain ⟨i, hi⟩ := exists_getLsbD_of_ne_zero h
  simp only [BitVec.getLsbD_and, BitVec.getLsbD_not, getLsbD_bit, Bool.and_eq_true,
    Bool.not_eq_true', decide_eq_false_iff_not] at hi
  obtain ⟨hbit, -, hne⟩ := hi
  have hlt : i < NUM_MESSAGE_TYPES target := by
    by_contra hge
    exact Bool.noConfusion ((tx.valid i (not_lt.1 hge)).symm.trans hbit)
  exact ⟨⟨i, hlt⟩, fun heq => hne (congrArg Fin.val heq), by rw [isQueued_eq]; exact hbit⟩

/-- The `while` loop of `getNextMessageToSend`, which goes around once at most. -/
def searchNext (tx : CommunicationRequestTransmiter target) : Option (MessageType target) :=
  search (isQueued tx.queuedMessageType) (NUM_MESSAGE_TYPES target) (next tx.lastSentMessage)

theorem Others.searchNext_isSome (h : tx.Others) : tx.searchNext.isSome = true := by
  obtain ⟨type, -, hqueued⟩ := h.exists_queued
  exact search_next_isSome tx.lastSentMessage hqueued

variable (tx)

/-- `getNextMessageToSend`. -/
def getNextMessageToSend : CommunicationRequestTransmiter target :=
  if tx.queuedMessageType = 0#32 then tx
  else if h : tx.Others then
    { tx with lastSentMessage := tx.searchNext.get h.searchNext_isSome }
  else tx

/-- `queuedMessageType &= ~(1 << lastSentMessage)`. -/
def clear : CommunicationRequestTransmiter target :=
  { tx with
    queuedMessageType := tx.queuedMessageType &&& ~~~bit tx.lastSentMessage
    valid := fun i hi => by rw [BitVec.getLsbD_and, tx.valid i hi, Bool.false_and] }

/-- `updateQue`. -/
def updateQue (type : MessageType target) : CommunicationRequestTransmiter target :=
  { tx with
    queuedMessageType := tx.queuedMessageType ||| bit type
    valid := fun i hi => by
      rw [BitVec.getLsbD_or, tx.valid i hi, getLsbD_bit, Bool.false_or]
      exact decide_eq_false (Nat.ne_of_gt (type.isLt.trans_le hi)) }

/-- What a call of `send()` leaves: the transmissions that it has started, and how often it was at
the head of its loop. -/
structure Sent (target : Target) where
  transmiter : CommunicationRequestTransmiter target
  started : List (MessageType target)
  rounds : ℕ

/-- A round of the loop before what comes later in the same call. -/
def Sent.after (type : MessageType target) (sent : Sent target) : Sent target :=
  ⟨sent.transmiter, type :: sent.started, sent.rounds + 1⟩

/-- The `while` loop of `send()`, from its head; `answers` says of each call of
`sendRobotToRobotMsg` whether it completes, and no answer stands for one that does not. -/
def sendLoop (tx : CommunicationRequestTransmiter target) : List Bool → Sent target
  | [] =>
    let tx := tx.getNextMessageToSend
    if isQueued tx.queuedMessageType tx.lastSentMessage then
      ⟨{ tx with ptState := .call }, [tx.lastSentMessage], 1⟩
    else ⟨{ tx with ptState := .yield }, [], 1⟩
  | completes :: answers =>
    let tx := tx.getNextMessageToSend
    if isQueued tx.queuedMessageType tx.lastSentMessage then
      if completes then (tx.clear.sendLoop answers).after tx.lastSentMessage
      else ⟨{ tx with ptState := .call }, [tx.lastSentMessage], 1⟩
    else ⟨{ tx with ptState := .yield }, [], 1⟩

/-- A call of `send()`. -/
def send (answers : List Bool) : Sent target :=
  match tx.ptState, answers with
  | .start, answers => tx.sendLoop answers
  | .call, true :: answers => tx.clear.sendLoop answers
  | .call, _ => ⟨tx, [], 0⟩
  | .yield, answers => tx.clear.sendLoop answers

@[simp] theorem Sent.after_transmiter (type : MessageType target) (sent : Sent target) :
    (sent.after type).transmiter = sent.transmiter := rfl

@[simp] theorem Sent.after_rounds (type : MessageType target) (sent : Sent target) :
    (sent.after type).rounds = sent.rounds + 1 := rfl

/-! ### The search -/

variable {tx} {type : MessageType target} {answers : List Bool}

@[simp] theorem queuedMessageType_getNext :
    tx.getNextMessageToSend.queuedMessageType = tx.queuedMessageType := by
  unfold getNextMessageToSend
  split_ifs <;> rfl

theorem searchNext_of_others (h : tx.Others) :
    tx.searchNext = some tx.getNextMessageToSend.lastSentMessage := by
  have hne : tx.queuedMessageType ≠ 0#32 := fun hzero => h (by rw [hzero]; exact BitVec.zero_and)
  rw [getNextMessageToSend, if_neg hne, dif_pos h]
  exact (Option.some_get _).symm

theorem lastSentMessage_getNext (h : ¬ tx.Others) :
    tx.getNextMessageToSend.lastSentMessage = tx.lastSentMessage := by
  unfold getNextMessageToSend
  split_ifs <;> rfl

theorem isQueued_clear :
    isQueued tx.clear.queuedMessageType type =
      (isQueued tx.queuedMessageType type && decide (type ≠ tx.lastSentMessage)) := by
  have hlt : (type : ℕ) < 32 := type.isLt.trans_le (NUM_MESSAGE_TYPES_le target)
  rw [isQueued_eq, isQueued_eq, clear, BitVec.getLsbD_and, BitVec.getLsbD_not, getLsbD_bit,
    decide_eq_true hlt, Bool.true_and, decide_not]
  simp only [Fin.val_inj]

theorem others_of_queued (hqueued : isQueued tx.queuedMessageType type = true)
    (hne : type ≠ tx.lastSentMessage) : tx.Others := by
  intro hzero
  have hclear : tx.clear.queuedMessageType = 0#32 := hzero
  have hbit : isQueued tx.clear.queuedMessageType type = true := by
    rw [isQueued_clear, hqueued, decide_eq_true hne, Bool.and_self]
  rw [hclear, isQueued_eq, BitVec.getLsbD_zero] at hbit
  exact Bool.noConfusion hbit

/-- The loop of `getNextMessageToSend` ends, at the first queued message type after
`lastSentMessage`. -/
def SearchEnds (tx : CommunicationRequestTransmiter target) : Prop :=
  tx.Others → ∃ k < NUM_MESSAGE_TYPES target,
    tx.searchNext = some tx.getNextMessageToSend.lastSentMessage ∧
    tx.getNextMessageToSend.lastSentMessage = RoundRobin.next^[k + 1] tx.lastSentMessage ∧
    isQueued tx.queuedMessageType tx.getNextMessageToSend.lastSentMessage = true ∧
    ∀ j < k, isQueued tx.queuedMessageType (RoundRobin.next^[j + 1] tx.lastSentMessage) = false

theorem searchEnds (tx : CommunicationRequestTransmiter target) : tx.SearchEnds := by
  intro h
  have hsome := searchNext_of_others h
  obtain ⟨k, hk, hnext, hqueued, hbefore⟩ := search_eq_some.1 hsome
  exact ⟨k, hk, hsome, hnext.symm, hqueued, hbefore⟩

/-- If a message is queued, then so is the one that is sent next. -/
theorem isQueued_getNext (h : isQueued tx.queuedMessageType type = true) :
    isQueued tx.getNextMessageToSend.queuedMessageType
      tx.getNextMessageToSend.lastSentMessage = true := by
  rw [queuedMessageType_getNext]
  by_cases hothers : tx.Others
  · obtain ⟨k, -, -, -, hqueued, -⟩ := tx.searchEnds hothers
    exact hqueued
  · have htype : type = tx.lastSentMessage := by
      by_contra hne
      exact hothers (others_of_queued h hne)
    rw [lastSentMessage_getNext hothers, ← htype]
    exact h

/-- A queued message that is not sent next comes closer. -/
theorem distance_getNext_lt (h : isQueued tx.queuedMessageType type = true)
    (hne : tx.getNextMessageToSend.lastSentMessage ≠ type) :
    distance tx.getNextMessageToSend.lastSentMessage type < distance tx.lastSentMessage type := by
  have hothers : tx.Others := by
    by_contra hothers
    rw [lastSentMessage_getNext hothers] at hne
    exact hothers (others_of_queued h hne.symm)
  exact distance_search_lt (searchNext_of_others hothers) h hne

theorem isQueued_updateQue {asked : MessageType target} :
    isQueued (tx.updateQue asked).queuedMessageType type =
      (isQueued tx.queuedMessageType type || decide (type = asked)) := by
  rw [isQueued_eq, isQueued_eq, updateQue, BitVec.getLsbD_or, getLsbD_bit]
  simp only [Fin.val_inj]

/-! ### A message that waits -/

/-- A queued message waits to be sent: it is not the one at which `send()` is suspended. -/
def Waits (tx : CommunicationRequestTransmiter target) (type : MessageType target) : Prop :=
  isQueued tx.queuedMessageType type = true ∧
    (tx.ptState = .start ∨ tx.lastSentMessage ≠ type)

theorem isQueued_clear_of_ne (h : isQueued tx.queuedMessageType type = true)
    (hne : tx.lastSentMessage ≠ type) : isQueued tx.clear.queuedMessageType type = true := by
  rw [isQueued_clear, h, decide_eq_true hne.symm, Bool.and_self]

/-- A call of `sendRobotToRobotMsg` that does not complete. -/
theorem suspended_queued (h : isQueued tx.queuedMessageType type = true) :
    type ∈ [tx.getNextMessageToSend.lastSentMessage] ∨
      { tx.getNextMessageToSend with ptState := .call }.Waits type ∧
        1 + distance tx.getNextMessageToSend.lastSentMessage type ≤
          distance tx.lastSentMessage type := by
  by_cases heq : tx.getNextMessageToSend.lastSentMessage = type
  · exact Or.inl (List.mem_singleton.2 heq.symm)
  · have hqueued : isQueued tx.getNextMessageToSend.queuedMessageType type = true := by
      rw [queuedMessageType_getNext]
      exact h
    have hcloser := distance_getNext_lt h heq
    exact Or.inr ⟨⟨hqueued, Or.inr heq⟩, by omega⟩

/-- **The loop of `send()`** starts the transmission of a queued message, or comes closer to it in
every round. -/
theorem sendLoop_queued (h : isQueued tx.queuedMessageType type = true) :
    type ∈ (tx.sendLoop answers).started ∨
      (tx.sendLoop answers).transmiter.Waits type ∧
        (tx.sendLoop answers).rounds +
          distance (tx.sendLoop answers).transmiter.lastSentMessage type
          ≤ distance tx.lastSentMessage type := by
  induction answers generalizing tx with
  | nil =>
    rw [sendLoop, if_pos (isQueued_getNext h)]
    exact suspended_queued h
  | cons completes answers ih =>
    rw [sendLoop, if_pos (isQueued_getNext h)]
    cases completes with
    | false => exact suspended_queued h
    | true =>
      rw [if_pos rfl]
      by_cases heq : tx.getNextMessageToSend.lastSentMessage = type
      · exact Or.inl (List.mem_cons.2 (Or.inl heq.symm))
      · have hqueued : isQueued tx.getNextMessageToSend.clear.queuedMessageType type = true := by
          refine isQueued_clear_of_ne ?_ heq
          rw [queuedMessageType_getNext]
          exact h
        have hcloser := distance_getNext_lt h heq
        rcases ih hqueued with hstarted | ⟨hwaits, hle⟩
        · exact Or.inl (List.mem_cons_of_mem _ hstarted)
        · have hlast : tx.getNextMessageToSend.clear.lastSentMessage =
              tx.getNextMessageToSend.lastSentMessage := rfl
          rw [hlast] at hle
          refine Or.inr ⟨hwaits, ?_⟩
          rw [Sent.after_transmiter, Sent.after_rounds]
          omega

theorem send_waits (h : tx.Waits type) (answers : List Bool) :
    type ∈ (tx.send answers).started ∨
      (tx.send answers).transmiter.Waits type ∧
        (tx.send answers).rounds + distance (tx.send answers).transmiter.lastSentMessage type
          ≤ distance tx.lastSentMessage type := by
  obtain ⟨hqueued, hpoint⟩ := h
  unfold send
  cases hstate : tx.ptState with
  | start => exact sendLoop_queued hqueued
  | call =>
    have hne := hpoint.resolve_left (by rw [hstate]; decide)
    match answers with
    | true :: answers => exact sendLoop_queued (isQueued_clear_of_ne hqueued hne)
    | [] | false :: answers =>
      exact Or.inr ⟨⟨hqueued, hpoint⟩, (Nat.zero_add _).le⟩
  | yield =>
    have hne := hpoint.resolve_left (by rw [hstate]; decide)
    exact sendLoop_queued (isQueued_clear_of_ne hqueued hne)

theorem getNext_ne_of_not_queued (h : isQueued tx.queuedMessageType type = false)
    (hnext : isQueued tx.getNextMessageToSend.queuedMessageType
      tx.getNextMessageToSend.lastSentMessage = true) :
    type ≠ tx.getNextMessageToSend.lastSentMessage := by
  rintro heq
  rw [← heq, queuedMessageType_getNext, h] at hnext
  exact Bool.noConfusion hnext

/-- A message that is not queued is not sent. -/
theorem sendLoop_not_queued (h : isQueued tx.queuedMessageType type = false)
    (answers : List Bool) :
    type ∉ (tx.sendLoop answers).started ∧
      isQueued (tx.sendLoop answers).transmiter.queuedMessageType type = false := by
  induction answers generalizing tx with
  | nil =>
    have hqueue := queuedMessageType_getNext.symm ▸ h
    rw [sendLoop]
    split_ifs with hnext
    · exact ⟨fun hmem => getNext_ne_of_not_queued h hnext (List.mem_singleton.1 hmem), hqueue⟩
    · exact ⟨List.not_mem_nil, hqueue⟩
  | cons completes answers ih =>
    have hqueue := queuedMessageType_getNext.symm ▸ h
    rw [sendLoop]
    split_ifs with hnext hcompletes
    · have hclear : isQueued tx.getNextMessageToSend.clear.queuedMessageType type = false := by
        rw [isQueued_clear, hqueue, Bool.false_and]
      obtain ⟨hstarted, hqueued⟩ := ih hclear
      refine ⟨fun hmem => ?_, hqueued⟩
      rcases List.mem_cons.1 hmem with heq | hmem
      · exact getNext_ne_of_not_queued h hnext heq
      · exact hstarted hmem
    · exact ⟨fun hmem => getNext_ne_of_not_queued h hnext (List.mem_singleton.1 hmem), hqueue⟩
    · exact ⟨List.not_mem_nil, hqueue⟩

end CommunicationRequestTransmiter

open CommunicationRequestTransmiter

/-! ### Runs -/

/-- A call that reaches the transmitter; that of `send()` comes with the answers of
`sendRobotToRobotMsg`. -/
inductive SendEvent (target : Target)
  | updateQue (type : MessageType target)
  | send (answers : List Bool)
deriving DecidableEq, Repr

namespace CommunicationRequestTransmiter.Sent

variable {sent : Sent target} {type : MessageType target} {e : SendEvent target}
  {events : List (SendEvent target)}

/-- Nothing has been sent since. -/
def since (tx : CommunicationRequestTransmiter target) : Sent target := ⟨tx, [], 0⟩

/-- One call. -/
def next (sent : Sent target) : SendEvent target → Sent target
  | .updateQue type => { sent with transmiter := sent.transmiter.updateQue type }
  | .send answers =>
    let later := sent.transmiter.send answers
    ⟨later.transmiter, sent.started ++ later.started, sent.rounds + later.rounds⟩

/-- Before the first call. -/
def start (target : Target) : Sent target := since (.construct target)

/-- What is kept of a request: its transmission has started, or its bit is set and the loop of
`send()` has not gone around as often as there are message types. -/
def Serves (type : MessageType target) (sent : Sent target) : Prop :=
  type ∈ sent.started ∨
    isQueued sent.transmiter.queuedMessageType type = true ∧
      sent.rounds < NUM_MESSAGE_TYPES target

/-- `send()` is suspended with the message type as `lastSentMessage`. -/
def SuspendedAt (type : MessageType target) (sent : Sent target) : Prop :=
  sent.transmiter.ptState ≠ .start ∧ sent.transmiter.lastSentMessage = type

/-- A call takes `send()` on from where it is suspended. -/
def goesOn (ptState : PtState) : SendEvent target → Bool
  | .updateQue _ => false
  | .send answers => !decide (ptState = PtState.call) || answers.head? == some true

/-- **Requests are served**: after each one, the transmission starts before the bit is cleared, and
before the loop of `send()` has gone around as often as there are message types. -/
def Served (events : List (SendEvent target)) : Prop :=
  ∀ before type rest, events = before ++ .updateQue type :: rest → ∀ later, later <+: rest →
    Serves type
      (Run.after next (since ((Run.after next (start target) before).transmiter.updateQue type))
        later)

/-- **Requests are timely**: none is for the message type at which `send()` is suspended, if
`send()` goes on later. -/
def Timely (events : List (SendEvent target)) : Prop :=
  ∀ before type rest, events = before ++ .updateQue type :: rest →
    (Run.after next (start target) before).SuspendedAt type →
      rest.any (goesOn (Run.after next (start target) before).transmiter.ptState) = false

variable {ptState : PtState}

theorem send_of_not_goesOn {tx : CommunicationRequestTransmiter target} {answers : List Bool}
    (h : goesOn tx.ptState (.send answers : SendEvent target) = false) :
    tx.send answers = ⟨tx, [], 0⟩ := by
  unfold CommunicationRequestTransmiter.send
  cases hstate : tx.ptState with
  | start | yield =>
    rw [hstate] at h
    exact Bool.noConfusion h
  | call =>
    rw [hstate] at h
    match answers with
    | true :: answers => exact Bool.noConfusion h
    | [] | false :: answers => rfl

theorem send_of_goesOn {tx : CommunicationRequestTransmiter target} {answers : List Bool}
    (hsuspended : tx.ptState ≠ .start)
    (h : goesOn tx.ptState (.send answers : SendEvent target) = true) :
    ∃ rest, tx.send answers = tx.clear.sendLoop rest := by
  unfold CommunicationRequestTransmiter.send
  cases hstate : tx.ptState with
  | start => exact absurd hstate hsuspended
  | call =>
    rw [hstate] at h
    match answers with
    | true :: answers => exact ⟨answers, rfl⟩
    | [] | false :: answers => exact Bool.noConfusion h
  | yield => exact ⟨answers, rfl⟩

/-- A request that is not for the message type at which `send()` is suspended has started, or waits
and comes closer. -/
def Waiting (type : MessageType target) (sent : Sent target) : Prop :=
  type ∈ sent.started ∨
    sent.transmiter.Waits type ∧
      sent.rounds + distance sent.transmiter.lastSentMessage type ≤ NUM_MESSAGE_TYPES target

theorem Waiting.next (h : sent.Waiting type) (e : SendEvent target) :
    (sent.next e).Waiting type := by
  cases e with
  | updateQue asked =>
    rcases h with hstarted | ⟨⟨hqueued, hpoint⟩, hrounds⟩
    · exact Or.inl hstarted
    · have hstill : isQueued (sent.transmiter.updateQue asked).queuedMessageType type = true := by
        rw [isQueued_updateQue, hqueued, Bool.true_or]
      exact Or.inr ⟨⟨hstill, hpoint⟩, hrounds⟩
  | send answers =>
    rcases h with hstarted | ⟨hwaits, hrounds⟩
    · exact Or.inl (List.mem_append_left _ hstarted)
    · rcases send_waits hwaits answers with hstarted | ⟨hwaits', hcloser⟩
      · exact Or.inl (List.mem_append_right _ hstarted)
      · refine Or.inr ⟨hwaits', ?_⟩
        show sent.rounds + (sent.transmiter.send answers).rounds +
          distance (sent.transmiter.send answers).transmiter.lastSentMessage type ≤ _
        omega

theorem Waiting.serves (h : sent.Waiting type) : sent.Serves type := by
  refine h.imp_right fun ⟨hwaits, hrounds⟩ => ⟨hwaits.1, ?_⟩
  have hpos : 0 < distance sent.transmiter.lastSentMessage type := distance_pos
  omega

/-- A request for the message type at which `send()` is suspended, before `send()` goes on. -/
structure Held (ptState : PtState) (type : MessageType target) (sent : Sent target) : Prop where
  suspended : ptState ≠ .start
  point : sent.transmiter.ptState = ptState
  last : sent.transmiter.lastSentMessage = type
  queued : isQueued sent.transmiter.queuedMessageType type = true
  started : sent.started = []
  rounds : sent.rounds = 0

theorem Held.serves (h : sent.Held ptState type) : sent.Serves type :=
  Or.inr ⟨h.queued, h.rounds ▸ NUM_MESSAGE_TYPES_pos target⟩

theorem Held.next (h : sent.Held ptState type) (hstays : goesOn ptState e = false) :
    (sent.next e).Held ptState type := by
  cases e with
  | updateQue asked =>
    have hqueued : isQueued (sent.transmiter.updateQue asked).queuedMessageType type = true := by
      rw [isQueued_updateQue, h.queued, Bool.true_or]
    exact { h with queued := hqueued }
  | send answers =>
    have hsend : sent.transmiter.send answers = ⟨sent.transmiter, [], 0⟩ :=
      send_of_not_goesOn (h.point.symm ▸ hstays)
    have hnext : sent.next (.send answers) = sent := by
      rw [Sent.next, hsend, List.append_nil, Nat.add_zero]
    rw [hnext]
    exact h

/-- **A request that is lost**: `send()` goes on, and clears the bit. -/
theorem Held.not_serves (h : sent.Held ptState type) (hgoes : goesOn ptState e = true) :
    ¬ (sent.next e).Serves type := by
  cases e with
  | updateQue asked => exact Bool.noConfusion hgoes
  | send answers =>
    obtain ⟨rest, hsend⟩ :=
      send_of_goesOn (h.point.symm ▸ h.suspended) (h.point.symm ▸ hgoes)
    have hclear : isQueued sent.transmiter.clear.queuedMessageType type = false := by
      rw [isQueued_clear, h.last, decide_eq_false (not_not.2 rfl), Bool.and_false]
    obtain ⟨hstarted, hqueued⟩ := sendLoop_not_queued hclear rest
    unfold Serves
    rw [Sent.next, hsend, h.started, List.nil_append, hqueued]
    rintro (hmem | ⟨hfalse, -⟩)
    · exact hstarted hmem
    · exact Bool.noConfusion hfalse

theorem Held.serves_iff (h : sent.Held ptState type) (rest : List (SendEvent target)) :
    (∀ later, later <+: rest → (Run.after Sent.next sent later).Serves type) ↔
      rest.any (goesOn ptState) = false := by
  induction rest generalizing sent with
  | nil =>
    refine iff_of_true (fun later hlater => ?_) rfl
    rw [List.prefix_nil.1 hlater]
    exact h.serves
  | cons e rest ih =>
    rw [List.any_cons]
    cases hgoes : goesOn ptState e with
    | true =>
      refine iff_of_false (fun hserves => ?_) Bool.true_eq_false_eq_False
      exact h.not_serves hgoes (hserves [e] ⟨rest, rfl⟩)
    | false =>
      rw [Bool.false_or, ← ih (h.next hgoes)]
      constructor
      · intro hserves later hlater
        exact hserves (e :: later) (List.cons_prefix_cons.2 ⟨rfl, hlater⟩)
      · intro hserves later hlater
        rcases List.prefix_cons_iff.1 hlater with rfl | ⟨later', rfl, hlater'⟩
        · exact h.serves
        · exact hserves later' hlater'

/-- **One request** is served exactly if it is not for the message type at which `send()` is
suspended, or `send()` does not go on. -/
theorem serves_updateQue_iff (sent : Sent target) (type : MessageType target)
    (rest : List (SendEvent target)) :
    (∀ later, later <+: rest →
      (Run.after Sent.next (since (sent.transmiter.updateQue type)) later).Serves type) ↔
      (sent.SuspendedAt type → rest.any (goesOn sent.transmiter.ptState) = false) := by
  have hqueued : isQueued (sent.transmiter.updateQue type).queuedMessageType type = true := by
    rw [isQueued_updateQue, decide_eq_true rfl, Bool.or_true]
  by_cases hsuspended : sent.SuspendedAt type
  · have hheld : (since (sent.transmiter.updateQue type)).Held sent.transmiter.ptState type :=
      ⟨hsuspended.1, rfl, hsuspended.2, hqueued, rfl, rfl⟩
    rw [hheld.serves_iff rest]
    exact ⟨fun hany _ => hany, fun hany => hany hsuspended⟩
  · have hpoint : sent.transmiter.ptState = .start ∨ sent.transmiter.lastSentMessage ≠ type := by
      by_cases hstart : sent.transmiter.ptState = .start
      · exact Or.inl hstart
      · exact Or.inr fun hlast => hsuspended ⟨hstart, hlast⟩
    have hwaiting : (since (sent.transmiter.updateQue type)).Waiting type :=
      Or.inr ⟨⟨hqueued, hpoint⟩, (Nat.zero_add _).trans_le distance_le⟩
    refine iff_of_true (fun later _ => ?_) (fun h => absurd h hsuspended)
    exact (inv_after (fun _ e h => h.next e) hwaiting).serves

/-- **Which requests are lost**: in every run the search for the next message ends, and the requests
are served exactly if they are timely. -/
theorem served_iff (target : Target) (events : List (SendEvent target)) :
    (∀ before, before <+: events →
      (Run.after Sent.next (start target) before).transmiter.SearchEnds) ∧
    (Served events ↔ Timely events) := by
  refine ⟨fun before _ => searchEnds _, ?_⟩
  constructor
  · intro h before type rest heq
    exact (serves_updateQue_iff _ type rest).1 (h before type rest heq)
  · intro h before type rest heq
    exact (serves_updateQue_iff _ type rest).2 (h before type rest heq)

/-- The first request of a robot that has nothing to send, for the message type 0. -/
def idleEvents : List (SendEvent .other) := [.send [], .updateQue (0 : Fin 2), .send []]

/-- It is lost: the second call of `send()` clears the bit and sends nothing. -/
theorem not_served_idle :
    ¬ Served idleEvents ∧
      (Run.after Sent.next (start .other) idleEvents).started = [] ∧
      (Run.after Sent.next (start .other) idleEvents).transmiter.queuedMessageType = 0#32 := by
  refine ⟨fun h => ?_, by decide, by decide⟩
  have hserves := (serves_updateQue_iff _ _ _).1 (h [.send []] (0 : Fin 2) [.send []] rfl)
  exact absurd (hserves ⟨by decide, rfl⟩) (by decide)

end CommunicationRequestTransmiter.Sent

end Aimbots.Communication
