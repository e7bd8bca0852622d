import Aimbots.Tap.DjiSerial

/-!
# What the checks of a frame find

A frame reaches the receiver with some of its bits altered.  `flips` are the altered bits.  The
`CRC8` covers the header with the length of the data, so a header that passes is the one that was
sent, and the receiver looks for the `CRC16` where the sender has put it.  One to three altered bits
anywhere, or a burst of at most eight, or one of at most sixteen behind the header: the altered
frame is thrown away at its first byte, behind its header or at its end.
-/

namespace Aimbots.Tap.DJISerial

open PrefixDecoder (Verdict IsOpen IsPiece isOpen_nil)
open Crc (neverReturns parity)

/-- The bits in which two messages of the same length differ. -/
def flips (f g : List UInt8) : List Bool := List.zipWith xor (bitsOf f) (bitsOf g)

/-- **Alterations that are found**: one to three bits, or a burst. -/
def Detectable (e : List Bool) : Prop :=
  (0 < e.count true ∧ e.count true ≤ 3) ∨
    ∃ j d k, e = List.replicate j false ++ d ++ List.replicate k false ∧ true ∈ d ∧
      (d.length ≤ 8 ∨ d.length ≤ 16 ∧ 40 ≤ j)

variable {rxCrcEnabled : Bool} {f g : List UInt8} {e : List Bool} {n : ℕ}

theorem length_flips (h : g.length = f.length) : (flips f g).length = 8 * f.length := by
  rw [flips, List.length_zipWith, length_bitsOf, length_bitsOf, h, Nat.min_self]

theorem bitsOf_eq_zipWith (h : g.length = f.length) :
    bitsOf g = List.zipWith xor (bitsOf f) (flips f g) :=
  (Crc.zipWith_xor_cancel (by rw [length_bitsOf, length_bitsOf, h])).symm

theorem bitsOf_take (n : ℕ) : bitsOf (f.take n) = (bitsOf f).take (8 * n) := by
  rcases Nat.le_total n f.length with h | h
  · have hlen : (bitsOf (f.take n)).length = 8 * n := by
      rw [length_bitsOf, List.length_take, Nat.min_eq_left h]
    conv_rhs => rw [← List.take_append_drop n f, bitsOf_append, ← hlen]
    rw [List.take_left]
  · rw [List.take_of_length_le h, List.take_of_length_le]
    rw [length_bitsOf]
    omega

theorem flips_take (n : ℕ) : flips (f.take n) (g.take n) = (flips f g).take (8 * n) := by
  rw [flips, bitsOf_take, bitsOf_take, flips, List.take_zipWith]

/-- Two messages that differ differ in a bit. -/
theorem true_mem_flips (h : g.length = f.length) (hne : g ≠ f) : true ∈ flips f g := by
  by_contra hmem
  have hzero : flips f g = List.replicate (8 * f.length) false := by
    rw [← length_flips h]
    exact Crc.eq_replicate_of_count_eq_zero (List.count_eq_zero.2 hmem)
  have hbits : bitsOf g = bitsOf f := by
    rw [bitsOf_eq_zipWith h, hzero, Crc.zipWith_xor_false (length_bitsOf f).symm]
  refine hne ?_
  clear hmem hzero hne
  induction f generalizing g with
  | nil => exact List.length_eq_zero_iff.1 h
  | cons b f ih =>
    obtain ⟨c, g, rfl⟩ := List.exists_cons_of_length_eq_add_one h
    rw [bitsOf_cons, bitsOf_cons] at hbits
    obtain ⟨hhead, htail⟩ := List.append_inj hbits (by simp)
    rw [ih (Nat.succ.inj h) htail, UInt8.toBitVec_inj.1 (Crc.bits_injective hhead)]

/-! ### The checks on the bits -/

theorem headerChecks_true_iff (h : 5 ≤ f.length) : HeaderChecks true f ↔
    Crc.run CRC8_POLY CRC8_INIT.toBitVec (bitsOf (f.take 5)) = 0#8 ∧
      dataLength f < SERIAL_RX_BUFF_SIZE := by
  have hfive : f.take 5 = f.take 4 ++ [f.getD 4 0] := by
    rw [List.take_add_one, List.getD_eq_getElem?_getD, List.getElem?_eq_getElem (by omega)]
    rfl
  rw [HeaderChecks, hfive, ← calculateCRC8_eq_iff]
  simp

theorem bodyChecks_true_iff (h : f.length = 9 + dataLength f) : BodyChecks true f ↔
    Crc.run CRC16_POLY CRC16_INIT.toBitVec (bitsOf f) = 0#16 := by
  have hsplit : f = f.take (7 + dataLength f) ++
      [f.getD (7 + dataLength f) 0, f.getD (8 + dataLength f) 0] := by
    generalize dataLength f = n at h
    have hdrop : f.drop (7 + n) = [f.getD (7 + n) 0, f.getD (8 + n) 0] := by
      rw [List.drop_eq_getElem_cons (by omega), List.drop_eq_getElem_cons (by omega),
        List.drop_eq_nil_of_le (by omega), List.getD_eq_getElem _ _ (by omega),
        List.getD_eq_getElem _ _ (by omega)]
      simp only [Nat.add_right_comm 7 n 1]
    rw [← hdrop, List.take_append_drop]
  conv_rhs => rw [hsplit]
  rw [← calculateCRC16_eq_iff, BodyChecks]
  simp

/-! ### Altered frames -/

/-- A frame ends where its head byte, its header or its end is not what it should be. -/
theorem isPiece_reject_head (h : g ≠ []) (hhead : g.head? ≠ some SERIAL_HEAD_BYTE) :
    IsPiece (verdict rxCrcEnabled) .reject (g.take 1) := by
  obtain ⟨b, g, rfl⟩ := List.exists_cons_of_ne_nil h
  exact ⟨by simp, [], b, rfl, isOpen_nil, if_pos hhead⟩

theorem isPiece_reject_header (hlen : g.length = 5) (hhead : g.head? = some SERIAL_HEAD_BYTE)
    (hheader : ¬ HeaderChecks rxCrcEnabled g) : IsPiece (verdict rxCrcEnabled) .reject g := by
  have hverdict : verdict rxCrcEnabled g = .reject := by
    simp [verdict, hhead, hlen, hheader]
  obtain ⟨p, b, rfl⟩ := (List.eq_nil_or_concat' g).resolve_left
    (List.ne_nil_of_length_pos (by omega))
  rw [List.length_append, List.length_singleton] at hlen
  refine ⟨by simp, p, b, rfl, ?_, hverdict⟩
  rw [isOpen_iff_isPending]
  have hne : p ≠ [] := List.ne_nil_of_length_pos (by omega)
  exact Or.inr ⟨(head?_concat hne).symm.trans hhead, Or.inl (by omega)⟩

theorem isPiece_reject_body (hhead : g.head? = some SERIAL_HEAD_BYTE)
    (hheader : HeaderChecks rxCrcEnabled g) (hlen : g.length = frameLength rxCrcEnabled g)
    (hbody : ¬ BodyChecks rxCrcEnabled g) : IsPiece (verdict rxCrcEnabled) .reject g := by
  have hseven : 7 ≤ frameLength rxCrcEnabled g := seven_le_frameLength
  have hverdict : verdict rxCrcEnabled g = .reject := by
    rw [verdict, if_neg (not_not.2 hhead), if_neg (by omega), if_neg (by omega),
      if_neg (by omega), if_neg hbody]
  obtain ⟨p, b, rfl⟩ := (List.eq_nil_or_concat' g).resolve_left
    (List.ne_nil_of_length_pos (by omega))
  rw [List.length_append, List.length_singleton] at hlen
  refine ⟨by simp, p, b, rfl, ?_, hverdict⟩
  rw [isOpen_iff_isPending]
  have hne : p ≠ [] := List.ne_nil_of_length_pos (by omega)
  rw [headerChecks_append (by omega)] at hheader
  rw [frameLength_append (by omega)] at hlen
  exact Or.inr ⟨(head?_concat hne).symm.trans hhead, Or.inr ⟨hheader, by omega⟩⟩

/-- **What the checks find is thrown away**: the altered frame is given up at its first byte, behind
its header or at its end, if the check of eight bits finds what is altered in the header, and that
of sixteen what is altered in the frame. -/
theorem exists_reject_of_checks (hf : IsFrame true f) (hlen : g.length = f.length)
    (h8 : true ∈ flips (f.take 5) (g.take 5) →
      Crc.run CRC8_POLY 0#8 (flips (f.take 5) (g.take 5)) ≠ 0#8)
    (h16 : Crc.run CRC16_POLY 0#16 (flips f g) ≠ 0#16) :
    ∃ n, (n = 1 ∨ n = 5 ∨ n = f.length) ∧ IsPiece (verdict true) .reject (g.take n) := by
  have hlength : f.length = 9 + dataLength f := by
    rw [hf.length, frameLength, if_pos rfl]
    omega
  have hne : g ≠ [] := List.ne_nil_of_length_pos (by omega)
  by_cases hhead : g.head? = some SERIAL_HEAD_BYTE
  · by_cases hheader : g.take 5 = f.take 5
    · -- the header is as it was sent
      have hsame : dataLength g = dataLength f := by
        rw [← List.take_append_drop 5 g, hheader,
          dataLength_append (by rw [List.length_take]; omega),
          ← dataLength_append (l := f.drop 5) (by rw [List.length_take]; omega),
          List.take_append_drop]
      have hchecks : HeaderChecks true g := by
        have h := (headerChecks_true_iff (by omega)).1 hf.header
        rw [headerChecks_true_iff (by omega), hheader, hsame]
        exact h
      have hbody : ¬ BodyChecks true g := by
        rw [bodyChecks_true_iff (by omega), bitsOf_eq_zipWith hlen, Crc.run_xor_eq_zero_iff
          (by rw [length_bitsOf, length_flips hlen]) ((bodyChecks_true_iff hlength).1 hf.body)]
        exact h16
      have hend : g.length = frameLength true g := by
        rw [frameLength, if_pos rfl]
        omega
      refine ⟨f.length, Or.inr (Or.inr rfl), ?_⟩
      rw [← hlen, List.take_length]
      exact isPiece_reject_body hhead hchecks hend hbody
    · have hfive : (g.take 5).length = (f.take 5).length := by
        rw [List.length_take, List.length_take, hlen]
      refine ⟨5, Or.inr (Or.inl rfl),
        isPiece_reject_header (by rw [List.length_take]; omega) ?_ ?_⟩
      · rw [List.head?_take, if_neg (by omega), hhead]
      · have hsent := ((headerChecks_true_iff (by omega)).1 hf.header).1
        rw [headerChecks_true_iff (by rw [List.length_take]; omega), List.take_take, Nat.min_self,
          bitsOf_eq_zipWith hfive, Crc.run_xor_eq_zero_iff
          (by rw [length_bitsOf, length_flips hfive]) hsent]
        exact fun h => h8 (true_mem_flips hfive hheader) h.1
  · exact ⟨1, Or.inl rfl, isPiece_reject_head hne hhead⟩

/-! ### What they find -/

theorem neverReturns_CRC8_POLY : neverReturns CRC8_POLY 39 CRC8_POLY = true := by decide +kernel

theorem neverReturns_CRC16_POLY : neverReturns CRC16_POLY 2111 CRC16_POLY = true := by
  decide +kernel

theorem length_le_of_isFrame (h : IsFrame true f) : f.length ≤ 264 := by
  have hsize : dataLength f < 256 := h.header.2
  rw [h.length, frameLength, if_pos rfl]
  omega

/-- **A frame in which one to three bits, or a burst of them, are altered** is never taken for a
frame: the receiver gives it up at its first byte, behind its header or at its end. -/
theorem exists_reject_of_detectable (hf : IsFrame true f) (hlen : g.length = f.length)
    (h : Detectable (flips f g)) :
    ∃ n, (n = 1 ∨ n = 5 ∨ n = f.length) ∧ IsPiece (verdict true) .reject (g.take n) := by
  have hbits := length_flips hlen
  have hmax := length_le_of_isFrame hf
  rcases h with ⟨hpos, hle⟩ | ⟨j, d, k, heq, hmem, hburst⟩
  · refine exists_reject_of_checks hf hlen (fun hmem => ?_) ?_
    · rw [flips_take] at hmem ⊢
      have hcount : ((flips f g).take (8 * 5)).count true ≤ (flips f g).count true :=
        (List.take_sublist _ _).count_le _
      refine Crc.run_ne_zero_of_count_le_three (by decide) (by decide) neverReturns_CRC8_POLY ?_
        (List.count_pos_iff.2 hmem) (by omega)
      rw [List.length_take]
      omega
    · exact Crc.run_ne_zero_of_count_le_three (by decide) (by decide) neverReturns_CRC16_POLY
        (by omega) hpos hle
  · refine exists_reject_of_checks hf hlen (fun hheader => ?_) ?_
    · have htake : (List.replicate j false ++ d ++ List.replicate k false).take (8 * 5) =
          List.replicate (min 40 j) false ++ d.take (40 - j) ++
            List.replicate (min (40 - (j + d.length)) k) false := by
        simp only [List.take_append, List.take_replicate, List.length_append,
          List.length_replicate]
      rw [flips_take, heq, htake] at hheader ⊢
      have hpart : true ∈ d.take (40 - j) := by
        simpa [List.mem_append, List.mem_replicate] using hheader
      -- a burst of more than eight bits has nothing in the header
      have hstart : 40 - j ≠ 0 := fun hzero => by
        rw [hzero] at hpart
        simp at hpart
      refine Crc.run_burst_ne_zero (by decide) ?_ hpart _ _
      rw [List.length_take]
      omega
    · rw [heq]
      exact Crc.run_burst_ne_zero (by decide) (by omega) hmem j k

end Aimbots.Tap.DJISerial
