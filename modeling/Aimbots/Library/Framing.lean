import Mathlib.Data.List.Basic

/-!
# Streams of headed frames

A stream over an alphabet `α` carries frames of `n + 1` symbols, of which the first is `header`
and the others are arbitrary.  `frames` is the reference segmentation of a stream, `next` and
`run` are the decoder that reads one symbol at a time and keeps the frame under assembly.

* `run_eq_frames`: the decoder delivers the reference segmentation, however the stream is cut.
* `run_flatten`: started between two frames, it delivers every frame as it was sent.
* `run_frame_eq_nil_iff`: when a frame has been read from the middle of another one, the decoder
  is between two frames again exactly if the symbols left over by the other one are no headers.
-/

namespace Aimbots.Framing

variable {α : Type*} [DecidableEq α] (header : α) (n : ℕ)

/-- The reference segmentation: skip symbols until one is the header, take it together with the
next `n` symbols, and go on behind them. -/
def frames : List α → List (List α)
  | [] => []
  | b :: bs =>
    if b = header then
      if n ≤ bs.length then (b :: bs.take n) :: frames (bs.drop n) else []
    else frames bs
termination_by l => l.length
decreasing_by
  · exact Nat.lt_succ_of_le (List.length_drop .. ▸ Nat.sub_le ..)
  · exact Nat.lt_succ_self _

/-- One symbol arrives while `p` is the frame under assembly. -/
def next (p : List α) (b : α) : List α × Option (List α) :=
  if p = [] then (if b = header then [b] else [], none)
  else if p.length = n then ([], some (p ++ [b]))
  else (p ++ [b], none)

/-- The decoder on a stream: the frame under assembly at its end, and the frames delivered. -/
def run (p : List α) : List α → List α × List (List α)
  | [] => (p, [])
  | b :: l =>
    let r := next header n p b
    let t := run r.1 l
    (t.1, r.2.toList ++ t.2)

omit [DecidableEq α] in
/-- A frame under assembly: nothing yet, or a header and fewer than `n` symbols. -/
def IsPending (p : List α) : Prop := p = [] ∨ ∃ q, p = header :: q ∧ q.length < n

omit [DecidableEq α] in
/-- A complete frame. -/
def IsFrame (f : List α) : Prop := ∃ q, f = header :: q ∧ q.length = n

variable {header n} {p q l l₁ l₂ f : List α} {b : α}

omit [DecidableEq α] in
theorem isPending_nil : IsPending header n [] := Or.inl rfl

omit [DecidableEq α] in
theorem IsPending.length_le (h : IsPending header n p) : p.length ≤ n := by
  rcases h with rfl | ⟨q, rfl, hq⟩
  · exact Nat.zero_le n
  · rw [List.length_cons]; omega

omit [DecidableEq α] in
theorem IsFrame.length (h : IsFrame header n f) : f.length = n + 1 := by
  obtain ⟨q, rfl, hq⟩ := h
  rw [List.length_cons, hq]

/-! ### One symbol -/

theorem next_of_ne (h : b ≠ header) : next header n [] b = ([], none) := by simp [next, h]

theorem next_header : next header n [] header = ([header], none) := by simp [next]

theorem next_of_length_eq (hne : p ≠ []) (h : p.length = n) :
    next header n p b = ([], some (p ++ [b])) := by simp [next, hne, h]

theorem next_of_length_ne (hne : p ≠ []) (h : p.length ≠ n) :
    next header n p b = (p ++ [b], none) := by simp [next, hne, h]

theorem isPending_next (hn : 0 < n) (h : IsPending header n p) :
    IsPending header n (next header n p b).1 := by
  rcases h with rfl | ⟨q, rfl, hq⟩
  · by_cases hb : b = header
    · rw [hb, next_header]
      exact Or.inr ⟨[], rfl, hn⟩
    · rw [next_of_ne hb]
      exact isPending_nil
  · by_cases hlen : (header :: q).length = n
    · rw [next_of_length_eq (List.cons_ne_nil _ _) hlen]
      exact isPending_nil
    · rw [next_of_length_ne (List.cons_ne_nil _ _) hlen]
      rw [List.length_cons] at hlen
      exact Or.inr ⟨q ++ [b], rfl, by rw [List.length_append, List.length_singleton]; omega⟩

/-! ### Streams -/

@[simp] theorem run_nil : run header n p [] = (p, []) := rfl

theorem run_append : run header n p (l₁ ++ l₂) =
    ((run header n (run header n p l₁).1 l₂).1,
      (run header n p l₁).2 ++ (run header n (run header n p l₁).1 l₂).2) := by
  induction l₁ generalizing p with
  | nil => rfl
  | cons b l₁ ih => simp only [List.cons_append, run, ih, List.append_assoc]

theorem isPending_run (hn : 0 < n) (h : IsPending header n p) :
    IsPending header n (run header n p l).1 := by
  induction l generalizing p with
  | nil => exact h
  | cons b l ih => exact ih (isPending_next hn h)

theorem frames_of_isPending (h : IsPending header n p) : frames header n p = [] := by
  rcases h with rfl | ⟨q, rfl, hq⟩
  · rw [frames]
  · rw [frames, if_pos rfl, if_neg (by omega)]

theorem frames_frame_append (h : IsFrame header n f) (l : List α) :
    frames header n (f ++ l) = f :: frames header n l := by
  obtain ⟨q, rfl, rfl⟩ := h
  rw [List.cons_append, frames, if_pos rfl, if_pos (by rw [List.length_append]; omega),
    List.take_left, List.drop_left]

/-- **The decoder delivers the reference segmentation.** -/
theorem run_eq_frames (hn : 0 < n) (h : IsPending header n p) :
    (run header n p l).2 = frames header n (p ++ l) := by
  induction l generalizing p with
  | nil => rw [List.append_nil, frames_of_isPending h]; rfl
  | cons b l ih =>
    have hrest := ih (isPending_next (b := b) hn h)
    show (next header n p b).2.toList ++ (run header n (next header n p b).1 l).2 = _
    rw [hrest]
    rcases h with rfl | ⟨q, rfl, hq⟩
    · by_cases hb : b = header
      · rw [hb, next_header]; rfl
      · have hskip : frames header n (b :: l) = frames header n l := by rw [frames, if_neg hb]
        rw [next_of_ne hb, List.nil_append, List.nil_append, hskip]; rfl
    · rw [List.append_cons (header :: q) b l]
      by_cases hlen : (header :: q).length = n
      · have hframe : IsFrame header n (header :: q ++ [b]) :=
          ⟨q ++ [b], rfl, by rw [← hlen]; simp⟩
        rw [next_of_length_eq (List.cons_ne_nil _ _) hlen, frames_frame_append hframe]
        rfl
      · rw [next_of_length_ne (List.cons_ne_nil _ _) hlen]; rfl

/-! ### Frames -/

/-- A frame under assembly takes every symbol until it is complete. -/
theorem run_open (hp : p ≠ []) (h : p.length + l.length ≤ n) :
    run header n p l = (p ++ l, []) := by
  induction l generalizing p with
  | nil => rw [run_nil, List.append_nil]
  | cons b l ih =>
    rw [List.length_cons] at h
    rw [run, next_of_length_ne hp (by omega)]
    simp only [Option.toList_none, List.nil_append]
    rw [ih (by simp) (by simp; omega), ← List.append_cons]

/-- The symbol that completes it is delivered with it. -/
theorem run_complete (hp : p ≠ []) (h : p.length + l.length = n + 1) (hl : l ≠ []) :
    run header n p l = ([], [p ++ l]) := by
  obtain ⟨l, b, rfl⟩ := (List.eq_nil_or_concat' l).resolve_left hl
  rw [List.length_append, List.length_singleton] at h
  rw [run_append, run_open hp (by omega), run,
    next_of_length_eq (by simp [hp]) (by rw [List.length_append]; omega), List.append_assoc]
  rfl

theorem run_frame (hn : 0 < n) (h : IsFrame header n f) : run header n [] f = ([], [f]) := by
  obtain ⟨q, rfl, rfl⟩ := h
  rw [run, next_header, run_complete (List.cons_ne_nil _ _) (by simp; omega)
    (List.ne_nil_of_length_pos hn)]
  rfl

/-- **Started between two frames, the decoder delivers every frame as it was sent.** -/
theorem run_flatten (hn : 0 < n) {fs : List (List α)} (h : ∀ f ∈ fs, IsFrame header n f) :
    run header n [] fs.flatten = ([], fs) := by
  induction fs with
  | nil => rfl
  | cons f fs ih =>
    rw [List.flatten_cons, run_append, run_frame hn (h f List.mem_cons_self),
      ih fun g hg => h g (List.mem_cons_of_mem _ hg)]
    rfl

/-- Fewer symbols than a frame has leave the decoder between two frames exactly if no header is
among them. -/
theorem run_eq_nil_iff_of_length_le (h : l.length ≤ n) :
    (run header n [] l).1 = [] ↔ header ∉ l := by
  induction l with
  | nil => simp
  | cons b l ih =>
    rw [List.length_cons] at h
    by_cases hb : b = header
    · subst hb
      -- the frame that this header opens is not complete when `l` ends
      rw [run, next_header]
      simp only
      rw [run_open (List.cons_ne_nil _ _) (by simp; omega)]
      simp
    · rw [run, next_of_ne hb]
      simp only
      rw [ih (by omega), List.mem_cons, not_or]
      exact ⟨fun hl => ⟨Ne.symm hb, hl⟩, fun hl => hl.2⟩

/-- A frame read while another one is under assembly first completes that one; its remaining
symbols are read from there. -/
theorem run_frame_of_isPending (hp : IsPending header n p) (hne : p ≠ [])
    (hf : IsFrame header n f) :
    run header n p f = ((run header n [] (f.drop (n + 1 - p.length))).1,
      (p ++ f.take (n + 1 - p.length)) ::
        (run header n [] (f.drop (n + 1 - p.length))).2) := by
  have hlen := hp.length_le
  have htake : (f.take (n + 1 - p.length)).length = n + 1 - p.length := by
    rw [List.length_take, hf.length]; omega
  conv_lhs => rw [← List.take_append_drop (n + 1 - p.length) f]
  rw [run_append, run_complete hne (by omega) (List.ne_nil_of_length_pos (by omega))]
  rfl

/-- **Where a frame leaves the decoder**: between two frames exactly if no header is among the
last `p.length` symbols, which are those that the frame under assembly did not take. -/
theorem run_frame_eq_nil_iff (hn : 0 < n) (hp : IsPending header n p) (hf : IsFrame header n f) :
    (run header n p f).1 = [] ↔ header ∉ f.drop (n + 1 - p.length) := by
  by_cases hne : p = []
  · subst hne
    rw [run_frame hn hf, List.length_nil, Nat.sub_zero, ← hf.length, List.drop_length]
    simp
  · rw [run_frame_of_isPending hp hne hf]
    refine run_eq_nil_iff_of_length_le ?_
    have hlen := hp.length_le
    rw [List.length_drop, hf.length]
    omega

/-- After a frame whose symbols behind the first are no headers, the decoder is between two
frames, wherever it was before. -/
theorem run_frame_eq_nil (hn : 0 < n) (hp : IsPending header n p) (hf : IsFrame header n f)
    (hfree : header ∉ f.tail) : (run header n p f).1 = [] := by
  rw [run_frame_eq_nil_iff hn hp hf]
  have hlen := hp.length_le
  intro hmem
  refine hfree (List.drop_subset (n - p.length) _ ?_)
  rwa [List.drop_tail, show n - p.length + 1 = n + 1 - p.length by omega]

/-- Frames leave the decoder between two frames as soon as one of them, past its header, is free
of headers. -/
theorem run_flatten_eq_nil (hn : 0 < n) (hp : IsPending header n p) {fs : List (List α)}
    (h : ∀ f ∈ fs, IsFrame header n f) (hfree : ∃ f ∈ fs, header ∉ f.tail) :
    (run header n p fs.flatten).1 = [] := by
  obtain ⟨f, hf, hfree⟩ := hfree
  obtain ⟨fs₁, fs₂, rfl⟩ := List.append_of_mem hf
  rw [List.flatten_append, List.flatten_cons, run_append, run_append,
    run_frame_eq_nil hn (isPending_run hn hp) (h f hf) hfree,
    run_flatten hn fun g hg => h g (by simp [hg])]

end Aimbots.Framing
