import Mathlib.Algebra.Order.Group.Nat
import Mathlib.Data.Nat.Bitwise
import Mathlib.Tactic.Ring

/-!
# Numbers made of fields of bits

`pack` puts fields one after another into a number, the first into its lowest bits, and `field`
takes the bits of a field out again (`field_pack`).  `bytes` cuts a number into bytes, the lowest
first.  `join_one`, `join_two` and `join_three` are what a decoder does to get a field out of the
bytes that it touches: to shift each of them into its place.
-/

namespace Aimbots.BitField

/-- The bits of a number from an offset on. -/
def field (n offset width : ℕ) : ℕ := n / 2 ^ offset % 2 ^ width

/-- The number with these fields, each a width and a value. -/
def pack : List (ℕ × ℕ) → ℕ
  | [] => 0
  | f :: fields => f.2 + 2 ^ f.1 * pack fields

/-- The width of some fields together. -/
def totalWidth : List (ℕ × ℕ) → ℕ
  | [] => 0
  | f :: fields => f.1 + totalWidth fields

/-- Each value fits its field. -/
def Fits (fields : List (ℕ × ℕ)) : Prop := ∀ f ∈ fields, f.2 < 2 ^ f.1

/-- The low bytes of a number, the lowest first. -/
def bytes (count n : ℕ) : List UInt8 :=
  (List.range count).map fun i => UInt8.ofNat (n / 2 ^ (8 * i))

variable {n offset width i : ℕ}

theorem testBit_field (j : ℕ) :
    (field n offset width).testBit j = (decide (j < width) && n.testBit (offset + j)) := by
  rw [field, Nat.testBit_mod_two_pow, Nat.testBit_div_two_pow, Nat.add_comm]

theorem field_lt : field n offset width < 2 ^ width := Nat.mod_lt _ (Nat.two_pow_pos width)

/-- **A field that was packed** can be taken out again. -/
theorem field_pack (before : List (ℕ × ℕ)) (width value : ℕ) (rest : List (ℕ × ℕ))
    (hbefore : Fits before) (hvalue : value < 2 ^ width) :
    field (pack (before ++ (width, value) :: rest)) (totalWidth before) width = value := by
  induction before with
  | nil =>
    change (value + 2 ^ width * pack rest) / 2 ^ 0 % 2 ^ width = value
    rw [Nat.pow_zero, Nat.div_one, Nat.add_mul_mod_self_left, Nat.mod_eq_of_lt hvalue]
  | cons f before ih =>
    have hf : f.2 < 2 ^ f.1 := hbefore f List.mem_cons_self
    have hrest := ih fun g hg => hbefore g (List.mem_cons_of_mem _ hg)
    rw [field] at hrest ⊢
    change (f.2 + 2 ^ f.1 * pack (before ++ (width, value) :: rest)) /
      2 ^ (f.1 + totalWidth before) %
      2 ^ width = value
    rw [Nat.pow_add, ← Nat.div_div_eq_div_mul, Nat.add_mul_div_left _ _ (Nat.two_pow_pos f.1),
      Nat.div_eq_of_lt hf, Nat.zero_add]
    exact hrest

/-- The field at an index. -/
theorem field_pack_of_getElem? {fields : List (ℕ × ℕ)} {value : ℕ} (hfits : Fits fields) (i : ℕ)
    (hi : fields[i]? = some (width, value)) :
    field (pack fields) (totalWidth (fields.take i)) width = value := by
  obtain ⟨hlt, hget⟩ := List.getElem?_eq_some_iff.1 hi
  have hsplit : fields.take i ++ (width, value) :: fields.drop (i + 1) = fields := by
    rw [← hget, ← List.drop_eq_getElem_cons hlt, List.take_append_drop]
  have hfield := field_pack (fields.take i) width value (fields.drop (i + 1))
    (fun g hg => hfits g (List.mem_of_mem_take hg)) (hfits _ (List.mem_of_getElem? hi))
  rwa [hsplit] at hfield

@[simp] theorem length_bytes (count n : ℕ) : (bytes count n).length = count := by
  rw [bytes, List.length_map, List.length_range]

theorem getD_bytes {count : ℕ} (hi : i < count) :
    ((bytes count n).getD i 0).toNat = field n (8 * i) 8 := by
  rw [bytes, List.getD_eq_getElem?_getD, List.getElem?_map, List.getElem?_range hi]
  exact UInt8.toNat_ofNat'

/-- The fields of a number, with these widths, from an offset on. -/
def split (n : ℕ) : List ℕ → ℕ → List (ℕ × ℕ)
  | [], _ => []
  | width :: widths, offset => (width, field n offset width) :: split n widths (offset + width)

/-- **The fields of a number** make it up again. -/
theorem pack_split (n : ℕ) (widths : List ℕ) (offset : ℕ) :
    pack (split n widths offset) = field n offset widths.sum := by
  induction widths generalizing offset with
  | nil => exact (Nat.mod_one _).symm
  | cons width widths ih =>
    change field n offset width + 2 ^ width * pack (split n widths (offset + width)) = _
    rw [ih, field, field, field, List.sum_cons, Nat.pow_add 2 width, Nat.mod_mul, Nat.pow_add,
      Nat.div_div_eq_div_mul]

/-- The number that some bytes spell. -/
def number (l : List UInt8) : ℕ := pack (l.map fun b => (8, b.toNat))

theorem fits_number (l : List UInt8) : Fits (l.map fun b => (8, b.toNat)) := by
  intro f hf
  obtain ⟨b, -, rfl⟩ := List.mem_map.1 hf
  exact UInt8.toNat_lt b

theorem totalWidth_number (l : List UInt8) :
    totalWidth (l.map fun b => (8, b.toNat)) = 8 * l.length := by
  induction l with
  | nil => rfl
  | cons b l ih =>
    change 8 + totalWidth (l.map fun b => (8, b.toNat)) = 8 * (l.length + 1)
    rw [ih]
    omega

theorem field_number (l : List UInt8) {b : UInt8} (hi : l[i]? = some b) :
    field (number l) (8 * i) 8 = b.toNat := by
  have hlt : i < l.length := (List.getElem?_eq_some_iff.1 hi).1
  have hget : (l.map fun b => (8, b.toNat))[i]? = some (8, b.toNat) := by
    rw [List.getElem?_map, hi]
    rfl
  have hfield := field_pack_of_getElem? (fits_number l) i hget
  rw [← List.map_take, totalWidth_number, List.length_take, Nat.min_eq_left hlt.le] at hfield
  exact hfield

/-- **Bytes, spelled out again**. -/
theorem bytes_number (l : List UInt8) : bytes l.length (number l) = l := by
  refine List.ext_getElem? fun i => ?_
  rcases Nat.lt_or_ge i l.length with hi | hi
  · have hget := List.getElem?_eq_getElem hi
    rw [bytes, List.getElem?_map, List.getElem?_range hi, hget, Option.map_some]
    congr 1
    refine UInt8.toNat_inj.1 ?_
    rw [UInt8.toNat_ofNat', ← field_number l hget, field]
  · rw [List.getElem?_eq_none (by rw [length_bytes]; exact hi), List.getElem?_eq_none hi]

theorem number_lt (l : List UInt8) : number l < 2 ^ (8 * l.length) := by
  induction l with
  | nil => exact Nat.one_pos
  | cons b l ih =>
    have hb := UInt8.toNat_lt b
    change b.toNat + 2 ^ 8 * number l < 2 ^ (8 * (l.length + 1))
    rw [Nat.mul_succ, Nat.pow_add]
    omega

/-- A field within one byte. -/
theorem join_one (n offset width r : ℕ) (h : r + width ≤ 8) :
    field n offset 8 >>> r &&& (2 ^ width - 1) = field n (offset + r) width := by
  refine Nat.eq_of_testBit_eq fun j => ?_
  rw [Nat.testBit_and, Nat.testBit_two_pow_sub_one, Nat.testBit_shiftRight, testBit_field,
    testBit_field, ← Nat.add_assoc]
  by_cases hj : j < width
  · rw [decide_eq_true hj, decide_eq_true (by omega : r + j < 8), Bool.true_and, Bool.and_true]
  · rw [decide_eq_false hj, Bool.and_false, Bool.false_and]

/-- A field within two bytes. -/
theorem join_two (n offset width r : ℕ) (hr : r ≤ 8) (h : r + width ≤ 16) :
    (field n offset 8 >>> r ||| field n (offset + 8) 8 <<< (8 - r)) &&& (2 ^ width - 1) =
      field n (offset + r) width := by
  refine Nat.eq_of_testBit_eq fun j => ?_
  rw [Nat.testBit_and, Nat.testBit_two_pow_sub_one, Nat.testBit_or, Nat.testBit_shiftRight,
    Nat.testBit_shiftLeft, testBit_field, testBit_field, testBit_field]
  by_cases hj : j < width
  · by_cases hlow : r + j < 8
    · have hshift : ¬ j ≥ 8 - r := by omega
      simp [hj, hlow, hshift, Nat.add_assoc]
    · have hshift : j ≥ 8 - r := by omega
      have hhigh : j - (8 - r) < 8 := by omega
      have hsame : offset + 8 + (j - (8 - r)) = offset + r + j := by omega
      simp [hj, hlow, hshift, hhigh, hsame]
  · simp [hj]

/-- A field of two bytes. -/
theorem join_bytes (n offset : ℕ) :
    field n offset 8 ||| field n (offset + 8) 8 <<< 8 = field n offset 16 := by
  have hlt : field n offset 8 ||| field n (offset + 8) 8 <<< 8 < 2 ^ 16 :=
    Nat.or_lt_two_pow (Nat.lt_trans field_lt (by decide))
      (by rw [Nat.shiftLeft_eq]; exact Nat.mul_lt_mul_of_pos_right field_lt (by decide))
  have hjoin := join_two n offset 16 0 (Nat.zero_le 8) (Nat.le_refl 16)
  rw [Nat.and_two_pow_sub_one_eq_mod] at hjoin
  exact (Nat.mod_eq_of_lt hlt).symm.trans hjoin

/-- A field within three bytes. -/
theorem join_three (n offset width r : ℕ) (hr : r ≤ 8) (h : r + width ≤ 24) :
    (field n offset 8 >>> r ||| field n (offset + 8) 8 <<< (8 - r) |||
        field n (offset + 16) 8 <<< (16 - r)) &&& (2 ^ width - 1) = field n (offset + r) width := by
  refine Nat.eq_of_testBit_eq fun j => ?_
  rw [Nat.testBit_and, Nat.testBit_two_pow_sub_one, Nat.testBit_or, Nat.testBit_or,
    Nat.testBit_shiftRight, Nat.testBit_shiftLeft, Nat.testBit_shiftLeft, testBit_field,
    testBit_field, testBit_field, testBit_field]
  by_cases hj : j < width
  · have hsecond : offset + 8 + (j - (8 - r)) = offset + r + j ∨ ¬ j ≥ 8 - r := by omega
    have hthird : offset + 16 + (j - (16 - r)) = offset + r + j ∨ ¬ j ≥ 16 - r := by omega
    by_cases hlow : r + j < 8
    · have h2 : ¬ j ≥ 8 - r := by omega
      have h3 : ¬ j ≥ 16 - r := by omega
      simp [hj, hlow, h2, h3, Nat.add_assoc]
    · have h2 : j ≥ 8 - r := by omega
      rw [(or_iff_left (not_not.2 h2)).1 hsecond]
      by_cases hmiddle : r + j < 16
      · have h2' : j - (8 - r) < 8 := by omega
        have h3 : ¬ j ≥ 16 - r := by omega
        simp [hj, hlow, h2, h2', h3]
      · have h2' : ¬ j - (8 - r) < 8 := by omega
        have h3 : j ≥ 16 - r := by omega
        have h3' : j - (16 - r) < 8 := by omega
        rw [(or_iff_left (not_not.2 h3)).1 hthird]
        simp [hj, hlow, h2, h2', h3, h3']
  · simp [hj]

end Aimbots.BitField
