import Mathlib.Data.List.Basic
import Mathlib.Tactic

/-!
# Octet strings: reads at an offset, big-endian fields, cutting

A buffer is a `List UInt8`.  `byteAt b i` is the octet at offset `i` (`0` beyond the end: every
use below is behind a length test), `be16` and `be32` are the big-endian fields of network
structures, `putBe16` and `putBe32` write them.

* `slice b i n`       `n` octets from offset `i`;
* `slice_add`         two slices in a row are one slice;
* `put b i v`         the octets `v` written at offset `i`.
-/

set_option linter.unusedVariables false

abbrev Bytes := List UInt8

/-- octets of a known number -/
abbrev Octets (n : Nat) := { b : Bytes // b.length = n }

namespace Bytes

def byteAt (b : Bytes) (i : Nat) : UInt8 := b.getD i 0

def be16 (b : Bytes) (i : Nat) : Nat := (byteAt b i).toNat * 256 + (byteAt b (i + 1)).toNat

def be32 (b : Bytes) (i : Nat) : Nat := be16 b i * 65536 + be16 b (i + 2)

def slice (b : Bytes) (i n : Nat) : Bytes := (b.drop i).take n

/-- overwrite the octets from offset `i` on -/
def put (b : Bytes) (i : Nat) (v : Bytes) : Bytes := b.take i ++ v ++ b.drop (i + v.length)

def enc16 (n : Nat) : Bytes := [UInt8.ofNat (n / 256), UInt8.ofNat n]

def enc32 (n : Nat) : Bytes := enc16 (n / 65536) ++ enc16 n

theorem be16_lt (b : Bytes) (i : Nat) : be16 b i < 65536 := by
  have h1 := (byteAt b i).toNat_lt
  have h2 := (byteAt b (i + 1)).toNat_lt
  unfold be16
  omega

theorem enc32_length (n : Nat) : (enc32 n).length = 4 := rfl

theorem octets_value {n : Nat} (h : n < 65536) :
    (UInt8.ofNat (n / 256)).toNat * 256 + (UInt8.ofNat n).toNat = n := by
  rw [UInt8.toNat_ofNat', UInt8.toNat_ofNat']
  omega

theorem octet_value {n : Nat} (h : n < 256) : (UInt8.ofNat n).toNat = n := by
  rw [UInt8.toNat_ofNat']
  exact Nat.mod_eq_of_lt h

theorem enc16_be16 (b : Bytes) (i : Nat) : enc16 (be16 b i) = [byteAt b i, byteAt b (i + 1)] := by
  have h1 := (byteAt b i).toNat_lt
  have h2 := (byteAt b (i + 1)).toNat_lt
  unfold enc16 be16
  congr 1
  · apply UInt8.toNat_inj.mp
    rw [UInt8.toNat_ofNat']
    omega
  · congr 1
    apply UInt8.toNat_inj.mp
    rw [UInt8.toNat_ofNat']
    omega

theorem slice_length (b : Bytes) (i n : Nat) (h : i + n ≤ b.length) :
    (slice b i n).length = n := by
  unfold slice
  rw [List.length_take, List.length_drop]
  omega

theorem slice_append_left (a b : Bytes) (i n : Nat) (h : i + n ≤ a.length) :
    slice (a ++ b) i n = slice a i n := by
  unfold slice
  rw [List.drop_append_of_le_length (by omega), List.take_append_of_le_length]
  rw [List.length_drop]
  omega

theorem slice_take (b : Bytes) (i n k : Nat) (h : i + n ≤ k) :
    slice (b.take k) i n = slice b i n := by
  unfold slice
  rw [List.drop_take, List.take_take, Nat.min_eq_left (by omega)]

theorem slice_add (b : Bytes) (i m n : Nat) :
    slice b i m ++ slice b (i + m) n = slice b i (m + n) := by
  unfold slice
  rw [← List.drop_drop, ← List.take_add]

theorem slice_append_drop (b : Bytes) (i n : Nat) : slice b i n ++ b.drop (i + n) = b.drop i := by
  unfold slice
  rw [← List.drop_drop, List.take_append_drop]

theorem slice_zero_append (a b : Bytes) (n : Nat) (h : a.length = n) : slice (a ++ b) 0 n = a := by
  unfold slice
  rw [List.drop_zero, List.take_append_of_le_length (by omega), List.take_of_length_le (by omega)]

theorem slice_append_right (a b : Bytes) (i n : Nat) :
    slice (a ++ b) (a.length + i) n = slice b i n := by
  unfold slice
  rw [List.drop_length_add_append]

theorem byteAt_of_length_le (b : Bytes) (i : Nat) (h : b.length ≤ i) : byteAt b i = 0 := by
  unfold byteAt
  rw [List.getD_eq_getElem?_getD, List.getElem?_eq_none h]
  rfl

theorem byteAt_append_left (a b : Bytes) (i : Nat) (h : i < a.length) :
    byteAt (a ++ b) i = byteAt a i := by
  unfold byteAt
  rw [List.getD_eq_getElem?_getD, List.getD_eq_getElem?_getD, List.getElem?_append_left h]

theorem byteAt_append_right (a b : Bytes) (i : Nat) :
    byteAt (a ++ b) (a.length + i) = byteAt b i := by
  unfold byteAt
  rw [List.getD_eq_getElem?_getD, List.getD_eq_getElem?_getD,
    List.getElem?_append_right (Nat.le_add_right _ _), Nat.add_sub_cancel_left]

theorem be16_append_right (a b : Bytes) (i : Nat) : be16 (a ++ b) (a.length + i) = be16 b i := by
  unfold be16
  rw [Nat.add_assoc, byteAt_append_right, byteAt_append_right]

theorem be32_append_right (a b : Bytes) (i : Nat) : be32 (a ++ b) (a.length + i) = be32 b i := by
  unfold be32
  rw [Nat.add_assoc, be16_append_right, be16_append_right]

theorem be16_enc16 {n : Nat} (h : n < 65536) (rest : Bytes) : be16 (enc16 n ++ rest) 0 = n :=
  octets_value h

theorem be32_enc32 {n : Nat} (h : n < 2^32) (rest : Bytes) : be32 (enc32 n ++ rest) 0 = n := by
  have hhigh : be16 (enc32 n ++ rest) 0 = n / 65536 := by
    show be16 (enc16 (n / 65536) ++ (enc16 n ++ rest)) 0 = n / 65536
    exact be16_enc16 (by omega) _
  have hlow : be16 (enc32 n ++ rest) 2 = n % 65536 := by
    show (UInt8.ofNat (n / 256)).toNat * 256 + (UInt8.ofNat n).toNat = n % 65536
    rw [UInt8.toNat_ofNat', UInt8.toNat_ofNat']
    omega
  unfold be32
  rw [hhigh, hlow]
  omega

theorem byteAt_take (b : Bytes) (k i : Nat) (h : i < k) : byteAt (b.take k) i = byteAt b i := by
  unfold byteAt
  rw [List.getD_eq_getElem?_getD, List.getD_eq_getElem?_getD, List.getElem?_take_of_lt h]

theorem byteAt_drop (b : Bytes) (o i : Nat) : byteAt (b.drop o) i = byteAt b (o + i) := by
  unfold byteAt
  rw [List.getD_eq_getElem?_getD, List.getD_eq_getElem?_getD, List.getElem?_drop]

theorem be16_drop (b : Bytes) (o i : Nat) : be16 (b.drop o) i = be16 b (o + i) := by
  unfold be16
  rw [byteAt_drop, byteAt_drop, Nat.add_assoc]

theorem byteAt_slice (b : Bytes) {p n i : Nat} (h : i < n) :
    byteAt (slice b p n) i = byteAt b (p + i) := by
  unfold slice
  rw [byteAt_take _ _ _ h, byteAt_drop]

theorem be16_slice (b : Bytes) {p n i : Nat} (h : i + 2 ≤ n) :
    be16 (slice b p n) i = be16 b (p + i) := by
  unfold be16
  rw [byteAt_slice b (by omega), byteAt_slice b (by omega), Nat.add_assoc]

theorem be32_slice (b : Bytes) {p n i : Nat} (h : i + 4 ≤ n) :
    be32 (slice b p n) i = be32 b (p + i) := by
  unfold be32
  rw [be16_slice b (by omega), be16_slice b (by omega), Nat.add_assoc]

/-- octets before the written ones stay -/
theorem slice_put_left (b v : Bytes) (i j n : Nat) (h : j + n ≤ i) (hi : i ≤ b.length) :
    slice (put b i v) j n = slice b j n := by
  unfold put
  rw [List.append_assoc, slice_append_left _ _ _ _ (by rw [List.length_take]; omega),
    slice_take _ _ _ _ h]

theorem byteAt_put_left (b v : Bytes) (i j : Nat) (h : j < i) (hi : i ≤ b.length) :
    byteAt (put b i v) j = byteAt b j := by
  unfold put
  rw [List.append_assoc, byteAt_append_left _ _ _ (by rw [List.length_take]; omega),
    byteAt_take _ _ _ h]

/-- octets behind the written ones stay -/
theorem byteAt_put_right (b v : Bytes) (i j : Nat) (h : i + v.length ≤ j) (hi : i ≤ b.length) :
    byteAt (put b i v) j = byteAt b j := by
  unfold put byteAt
  have hl : (b.take i ++ v).length = i + v.length := by
    rw [List.length_append, List.length_take, Nat.min_eq_left hi]
  rw [List.getD_eq_getElem?_getD, List.getD_eq_getElem?_getD,
    List.getElem?_append_right (by omega), hl, List.getElem?_drop]
  congr 2
  omega

theorem byteAt_put_at (b : Bytes) (v : UInt8) (i : Nat) (hi : i ≤ b.length) :
    byteAt (put b i [v]) i = v := by
  have hl : (b.take i).length = i := List.length_take_of_le hi
  have happ := byteAt_append_right (b.take i) ([v] ++ b.drop (i + [v].length)) 0
  rw [hl] at happ
  unfold put
  rw [List.append_assoc]
  exact happ

theorem eq_of_byteAt {a b : Bytes} (hlen : a.length = b.length)
    (h : ∀ i, i < a.length → byteAt a i = byteAt b i) : a = b := by
  apply List.ext_getElem hlen
  intro i ha hb
  have hi := h i ha
  unfold byteAt at hi
  rw [List.getD_eq_getElem?_getD, List.getD_eq_getElem?_getD, List.getElem?_eq_getElem ha,
    List.getElem?_eq_getElem hb] at hi
  exact hi

theorem put_drop (b v : Bytes) (i : Nat) (hi : i ≤ b.length) :
    (put b i v).drop (i + v.length) = b.drop (i + v.length) := by
  unfold put
  apply List.drop_left'
  rw [List.length_append, List.length_take, Nat.min_eq_left hi]

/-- octets take the place of others of the same number -/
theorem put_append (a c : Bytes) {v w : Bytes} (h : v.length = w.length) :
    put (a ++ (v ++ c)) a.length w = a ++ (w ++ c) := by
  unfold put
  rw [List.take_left, ← h, ← List.length_append, ← List.append_assoc, List.drop_left,
    List.append_assoc]

theorem put_length (b v : Bytes) (i : Nat) (h : i + v.length ≤ b.length) :
    (put b i v).length = b.length := by
  unfold put
  rw [List.length_append, List.length_append, List.length_take, List.length_drop]
  omega

theorem split_four {b : Bytes} (h : 4 ≤ b.length) :
    b = [byteAt b 0, byteAt b 1, byteAt b 2, byteAt b 3] ++ b.drop 4 := by
  match b, h with
  | _ :: _ :: _ :: _ :: _, _ => rfl

theorem split_eight {b : Bytes} (h : 8 ≤ b.length) :
    b = [byteAt b 0, byteAt b 1, byteAt b 2, byteAt b 3, byteAt b 4, byteAt b 5, byteAt b 6,
      byteAt b 7] ++ b.drop 8 := by
  match b, h with
  | _ :: _ :: _ :: _ :: _ :: _ :: _ :: _ :: _, _ => rfl

end Bytes
