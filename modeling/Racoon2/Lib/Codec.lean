import Racoon2.Lib.Prefix

/-!
# Formats that are read back exactly

A codec is a reader and a writer that agree: the reader returns `a` and the octets behind it exactly
when the input begins with what the writer puts for `a`.  So one field after the other is read back
exactly too, and whatever is accepted is what would be written.

* `number w`       a number of `w` octets, the high ones first;
* `field w`        octets behind their length in `w` octets, absent when there are none;
* `both c d`       one behind the other;
* `readAll_iff`    the whole input.
-/

set_option linter.unusedVariables false

namespace Bytes

/-- the number `n` in `w` octets -/
def encBe : Nat → Nat → Bytes
  | 0, _ => []
  | w + 1, n => UInt8.ofNat (n / 256 ^ w) :: encBe w n

theorem encBe_length (w n : Nat) : (encBe w n).length = w := by
  induction w with
  | zero => rfl
  | succ w ih => rw [encBe, List.length_cons, ih]

theorem value_encBe (w n : Nat) : value (encBe w n) = n % 256 ^ w := by
  induction w with
  | zero => rw [encBe, value, Nat.pow_zero, Nat.mod_one]
  | succ w ih =>
    have hmod : n % 256 ^ (w + 1) = n % 256 ^ w + 256 ^ w * (n / 256 ^ w % 256) := Nat.mod_mul
    rw [encBe, value, encBe_length, ih, UInt8.toNat_ofNat', hmod]
    ring

/-- octets of a length are what is written for their number -/
theorem encBe_value (b : Bytes) : ∀ k, encBe b.length (k * 256 ^ b.length + value b) = b := by
  induction b with
  | nil => exact fun k => rfl
  | cons x xs ih =>
    intro k
    have hpos : 0 < 256 ^ xs.length := Nat.pow_pos (by decide)
    have hsplit : k * 256 ^ (xs.length + 1) + (x.toNat * 256 ^ xs.length + value xs)
        = (k * 256 + x.toNat) * 256 ^ xs.length + value xs := by
      rw [Nat.pow_succ]
      ring
    rw [List.length_cons, value, encBe, hsplit, ih]
    congr 1
    rw [Nat.mul_comm, Nat.mul_add_div hpos, Nat.div_eq_of_lt (value_lt xs), Nat.add_zero]
    apply UInt8.toNat_inj.mp
    rw [UInt8.toNat_ofNat']
    have hx := x.toNat_lt
    omega

end Bytes

open Bytes

structure Codec (α : Type) where
  read : Bytes → Option (α × Bytes)
  write : α → Bytes
  Valid : α → Prop
  exact : ∀ b a rest, read b = some (a, rest) ↔ Valid a ∧ b = write a ++ rest

namespace Codec

/-- the first `n` octets -/
def takeOctets (n : Nat) (b : Bytes) : Option (Bytes × Bytes) :=
  if b.length < n then none else some (b.take n, b.drop n)

theorem takeOctets_eq_some {n : Nat} {b x rest : Bytes} :
    takeOctets n b = some (x, rest) ↔ x.length = n ∧ b = x ++ rest := by
  unfold takeOctets
  constructor
  · intro h
    split at h
    · cases h
    · rename_i hlen
      rw [Option.some.injEq, Prod.mk.injEq] at h
      rw [← h.1, ← h.2]
      exact ⟨List.length_take_of_le (Nat.not_lt.mp hlen), (List.take_append_drop n b).symm⟩
  · rintro ⟨rfl, rfl⟩
    rw [if_neg (by rw [List.length_append]; omega), List.take_left, List.drop_left]

/-- a number of `w` octets -/
def number (w : Nat) : Codec Nat where
  read := fun b => (takeOctets w b).map fun x => (value x.1, x.2)
  write := encBe w
  Valid := fun n => n < 256 ^ w
  exact := by
    intro b n rest
    rw [Option.map_eq_some_iff]
    constructor
    · rintro ⟨⟨x, rest'⟩, htake, heq⟩
      rw [Prod.mk.injEq] at heq
      obtain ⟨hlen, hb⟩ := takeOctets_eq_some.mp htake
      have hwrite := encBe_value x 0
      rw [Nat.zero_mul, Nat.zero_add, hlen, heq.1] at hwrite
      refine ⟨?_, ?_⟩
      · rw [← heq.1, ← hlen]
        exact value_lt x
      · rw [hwrite, ← heq.2]
        exact hb
    · rintro ⟨hlt, hb⟩
      refine ⟨(encBe w n, rest), takeOctets_eq_some.mpr ⟨encBe_length w n, hb⟩, ?_⟩
      rw [value_encBe, Nat.mod_eq_of_lt hlt]

/-- octets behind their length; none at all is no field -/
def field (w : Nat) : Codec (Option Bytes) where
  read := fun b =>
    match (number w).read b with
    | none => none
    | some (n, rest) =>
      (takeOctets n rest).map fun x => (if x.1 = [] then none else some x.1, x.2)
  write := fun f => encBe w (f.getD []).length ++ f.getD []
  Valid := fun f => f ≠ some [] ∧ (f.getD []).length < 256 ^ w
  exact := by
    intro b f rest
    constructor
    · intro h
      split at h
      · cases h
      · rename_i n rest' hnumber
        obtain ⟨hlt, hb⟩ := ((number w).exact _ _ _).mp hnumber
        obtain ⟨⟨x, rest''⟩, htake, heq⟩ := Option.map_eq_some_iff.mp h
        obtain ⟨hlen, hrest⟩ := takeOctets_eq_some.mp htake
        rw [Prod.mk.injEq] at heq
        have hget : f.getD [] = x := by
          rw [← heq.1]
          by_cases hx : x = []
          · rw [if_pos hx, hx]
            rfl
          · rw [if_neg hx]
            rfl
        rw [hget, hlen]
        refine ⟨⟨?_, hlt⟩, ?_⟩
        · rw [← heq.1]
          by_cases hx : x = []
          · rw [if_pos hx]
            exact fun h => nomatch h
          · rw [if_neg hx]
            exact fun h => hx (Option.some.inj h)
        · rw [hb, hrest, ← heq.2, List.append_assoc]
          rfl
    · rintro ⟨⟨hne, hlt⟩, hb⟩
      have hnumber : (number w).read b = some ((f.getD []).length, f.getD [] ++ rest) := by
        rw [(number w).exact]
        refine ⟨hlt, ?_⟩
        rw [hb, List.append_assoc]
        rfl
      have htake : takeOctets (f.getD []).length (f.getD [] ++ rest) = some (f.getD [], rest) :=
        takeOctets_eq_some.mpr ⟨rfl, rfl⟩
      simp only [hnumber, htake, Option.map_some]
      cases f with
      | none => rfl
      | some x =>
        have hx : x ≠ [] := fun h => hne (by rw [h])
        show some (if x = [] then none else some x, rest) = _
        rw [if_neg hx]

/-- one codec behind the other -/
def both {α β : Type} (c : Codec α) (d : Codec β) : Codec (α × β) where
  read := fun b =>
    match c.read b with
    | none => none
    | some (a, rest) => (d.read rest).map fun x => ((a, x.1), x.2)
  write := fun x => c.write x.1 ++ d.write x.2
  Valid := fun x => c.Valid x.1 ∧ d.Valid x.2
  exact := by
    rintro b ⟨a, a'⟩ rest
    constructor
    · intro h
      split at h
      · cases h
      · rename_i a₁ rest₁ hfirst
        obtain ⟨hvalid, hb⟩ := (c.exact _ _ _).mp hfirst
        obtain ⟨⟨a₂, rest₂⟩, hsecond, heq⟩ := Option.map_eq_some_iff.mp h
        obtain ⟨hvalid', hrest⟩ := (d.exact _ _ _).mp hsecond
        simp only [Prod.mk.injEq] at heq
        obtain ⟨⟨rfl, rfl⟩, rfl⟩ := heq
        exact ⟨⟨hvalid, hvalid'⟩, by rw [hb, hrest, List.append_assoc]⟩
    · rintro ⟨⟨hvalid, hvalid'⟩, hb⟩
      have hfirst : c.read b = some (a, d.write a' ++ rest) :=
        (c.exact _ _ _).mpr ⟨hvalid, by rw [hb, List.append_assoc]⟩
      have hsecond : d.read (d.write a' ++ rest) = some (a', rest) :=
        (d.exact _ _ _).mpr ⟨hvalid', rfl⟩
      simp only [hfirst, hsecond, Option.map_some]

/-- nothing may follow -/
def readAll {α : Type} (c : Codec α) (b : Bytes) : Option α :=
  match c.read b with
  | some (a, []) => some a
  | _ => none

theorem readAll_iff {α : Type} (c : Codec α) {b : Bytes} {a : α} :
    c.readAll b = some a ↔ c.Valid a ∧ b = c.write a := by
  have hexact := c.exact b a []
  rw [List.append_nil] at hexact
  rw [← hexact]
  unfold readAll
  constructor
  · intro h
    split at h
    · rename_i a' hread
      rw [hread, Option.some.inj h]
    · cases h
  · intro hread
    rw [hread]

end Codec
