import Racoon2.Lib.Bytes

/-!
# Cipher feedback

Blocks of `k` octets, each masked with octets that the block before it gives.

* `xor_xor`                  a mask comes off again;
* `Feedback.unwrap_wrap`     the blocks come back, whatever the masks are.
-/

set_option linter.unusedVariables false

open Bytes

namespace Bytes

/-- octet by octet -/
def xor (a b : Bytes) : Bytes := List.zipWith (· ^^^ ·) a b

theorem xor_length {a b : Bytes} (h : a.length = b.length) : (xor a b).length = a.length := by
  unfold xor
  rw [List.length_zipWith, ← h, Nat.min_self]

theorem xor_xor {a b : Bytes} (h : a.length = b.length) : xor (xor a b) b = a := by
  induction a generalizing b with
  | nil => rfl
  | cons x xs ih =>
    cases b with
    | nil => cases h
    | cons y ys =>
      show (x ^^^ y ^^^ y) :: xor (xor xs ys) ys = x :: xs
      rw [ih (Nat.succ.inj h), UInt8.xor_assoc, UInt8.xor_self, UInt8.xor_zero]

end Bytes

namespace Feedback

section
variable (k : Nat) (mask : Bytes → Bytes)

/-- `n` blocks of `p`, the first one masked with `b` -/
def wrap : Nat → Bytes → Bytes → Bytes
  | 0, b, p => []
  | n + 1, b, p => xor (p.take k) b ++ wrap n (mask (xor (p.take k) b)) (p.drop k)

/-- the blocks from `n` masked ones -/
def unwrap : Nat → Bytes → Bytes → Bytes
  | 0, b, c => []
  | n + 1, b, c => xor (c.take k) b ++ unwrap n (mask (c.take k)) (c.drop k)

end

section
variable {k : Nat} {mask : Bytes → Bytes} (hmask : ∀ c, (mask c).length = k)
include hmask

theorem wrap_length {n : Nat} {b p : Bytes} (hb : b.length = k) (hp : p.length = n * k) :
    (wrap k mask n b p).length = n * k := by
  induction n generalizing b p with
  | zero => rw [Nat.zero_mul]; rfl
  | succ n ih =>
    rw [Nat.succ_mul] at hp
    have htake : (p.take k).length = b.length := by
      rw [List.length_take_of_le (by omega), hb]
    rw [wrap, List.length_append, xor_length htake, ih (hmask _) (by rw [List.length_drop]; omega),
      htake, hb, Nat.succ_mul, Nat.add_comm]

theorem unwrap_wrap {n : Nat} {b p : Bytes} (hb : b.length = k) (hp : p.length = n * k) :
    unwrap k mask n b (wrap k mask n b p) = p := by
  induction n generalizing b p with
  | zero =>
    rw [Nat.zero_mul] at hp
    exact (List.eq_nil_of_length_eq_zero hp).symm
  | succ n ih =>
    rw [Nat.succ_mul] at hp
    have htake : (p.take k).length = b.length := by
      rw [List.length_take_of_le (by omega), hb]
    have hblock : (xor (p.take k) b).length = k := (xor_length htake).trans (htake.trans hb)
    rw [unwrap, wrap, List.take_left' hblock, List.drop_left' hblock,
      ih (hmask _) (by rw [List.length_drop]; omega), xor_xor htake, List.take_append_drop]

end

end Feedback
