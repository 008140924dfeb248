import Racoon2.Lib.Bytes

/-!
# Items of a type, a length and a value

An octet for the type and one for the length, which counts these two as well.

* `Tlv.next`        the first item, if the octets begin with one;
* `Tlv.readAll`     items up to the end of the octets; `readAll_iff`: what is read is what tiles them;
* `Tlv.readWhile`   items up to the first octets that are none.
-/

set_option linter.unusedVariables false

open Bytes

structure Tlv where
  type : UInt8
  value : Bytes
  deriving DecidableEq, Repr

namespace Tlv

def encode (a : Tlv) : Bytes := [a.type, UInt8.ofNat (a.value.length + 2)] ++ a.value

/-- the length is one octet -/
def Fits (a : Tlv) : Prop := a.value.length ≤ 253

instance (a : Tlv) : Decidable a.Fits := inferInstanceAs (Decidable (_ ≤ _))

def encodeAll (as : List Tlv) : Bytes := as.flatMap encode

theorem encode_length (a : Tlv) : a.encode.length = a.value.length + 2 := by
  unfold encode
  rw [List.length_append]
  exact Nat.add_comm _ _

theorem encodeAll_nil : encodeAll [] = [] := rfl

theorem encodeAll_cons (a : Tlv) (as : List Tlv) : encodeAll (a :: as) = a.encode ++ encodeAll as :=
  rfl

theorem encodeAll_append (as bs : List Tlv) : encodeAll (as ++ bs) = encodeAll as ++ encodeAll bs :=
  List.flatMap_append

theorem encodeAll_length (as : List Tlv) :
    (encodeAll as).length = (as.map fun a => a.value.length + 2).sum := by
  unfold encodeAll
  rw [List.length_flatMap]
  congr 2

/-- an item at the beginning of the octets, and what is behind it -/
def next (b : Bytes) : Option (Tlv × Bytes) :=
  if b.length < 2 then none
  else if (byteAt b 1).toNat < 2 then none
  else if b.length < (byteAt b 1).toNat then none
  else some (⟨byteAt b 0, slice b 2 ((byteAt b 1).toNat - 2)⟩, b.drop (byteAt b 1).toNat)

theorem next_iff (b : Bytes) (a : Tlv) (rest : Bytes) :
    next b = some (a, rest) ↔ a.Fits ∧ b = a.encode ++ rest := by
  unfold next Fits encode
  constructor
  · intro h
    split at h
    · cases h
    next hhead =>
    split at h
    · cases h
    next hmin =>
    split at h
    · cases h
    next hin =>
    rw [Option.some.injEq, Prod.mk.injEq] at h
    obtain ⟨rfl, rfl⟩ := h
    have hlen : (slice b 2 ((byteAt b 1).toNat - 2)).length = (byteAt b 1).toNat - 2 :=
      slice_length _ _ _ (by omega)
    have hoctet : UInt8.ofNat ((byteAt b 1).toNat - 2 + 2) = byteAt b 1 := by
      rw [Nat.sub_add_cancel (Nat.le_of_not_lt hmin), UInt8.ofNat_toNat]
    have hlt := (byteAt b 1).toNat_lt
    dsimp only
    rw [hlen, hoctet]
    refine ⟨by omega, ?_⟩
    rw [List.append_assoc, show (byteAt b 1).toNat = 2 + ((byteAt b 1).toNat - 2) by omega,
      Nat.add_sub_cancel_left, slice_append_drop]
    match b, Nat.le_of_not_lt hhead with
    | _ :: _ :: _, _ => rfl
  · rintro ⟨hfits, rfl⟩
    have hlen : (UInt8.ofNat (a.value.length + 2)).toNat = a.value.length + 2 :=
      octet_value (by omega)
    have hsize : ([a.type, UInt8.ofNat (a.value.length + 2)] ++ a.value ++ rest).length =
        a.value.length + 2 + rest.length := by
      rw [List.length_append, List.length_append]
      show 2 + _ + _ = _
      omega
    have hone : byteAt ([a.type, UInt8.ofNat (a.value.length + 2)] ++ a.value ++ rest) 1 =
        UInt8.ofNat (a.value.length + 2) := rfl
    have hvalue : slice ([a.type, UInt8.ofNat (a.value.length + 2)] ++ a.value ++ rest) 2
        a.value.length = a.value := slice_zero_append a.value rest _ rfl
    have hrest : ([a.type, UInt8.ofNat (a.value.length + 2)] ++ a.value ++ rest).drop
        (a.value.length + 2) = rest := List.drop_left
    rw [hone, hlen, hsize, if_neg (by omega), if_neg (by omega), if_neg (by omega),
      Nat.add_sub_cancel, hvalue, hrest]
    rfl

/-- items up to the end; there are at most `n` -/
def readAll : Nat → Bytes → Option (List Tlv)
  | 0, b => if b = [] then some [] else none
  | n + 1, b =>
    if b = [] then some []
    else
      match next b with
      | none => none
      | some (a, rest) => (readAll n rest).map (a :: ·)

theorem nil_read_iff {as : List Tlv} :
    some [] = some as ↔ (∀ a ∈ as, a.Fits) ∧ [] = encodeAll as := by
  constructor
  · intro has
    cases has
    exact ⟨List.forall_mem_nil _, rfl⟩
  · rintro ⟨-, hb⟩
    cases as with
    | nil => rfl
    | cons a as => cases hb

theorem readAll_iff {n : Nat} {b : Bytes} {as : List Tlv} (h : b.length ≤ n) :
    readAll n b = some as ↔ (∀ a ∈ as, a.Fits) ∧ b = encodeAll as := by
  induction n generalizing b as with
  | zero =>
    obtain rfl := List.eq_nil_of_length_eq_zero (Nat.le_zero.mp h)
    exact nil_read_iff
  | succ n ih =>
    rw [readAll]
    by_cases hnil : b = []
    · rw [if_pos hnil, hnil]
      exact nil_read_iff
    rw [if_neg hnil]
    constructor
    · intro hread
      split at hread
      · cases hread
      next a rest hnext =>
      obtain ⟨hfits, rfl⟩ := (next_iff b a rest).mp hnext
      obtain ⟨as', has', rfl⟩ := Option.map_eq_some_iff.mp hread
      rw [List.length_append, encode_length] at h
      obtain ⟨hall, rfl⟩ := (ih (by omega)).mp has'
      exact ⟨List.forall_mem_cons.mpr ⟨hfits, hall⟩, rfl⟩
    · rintro ⟨hall, rfl⟩
      cases as with
      | nil => exact absurd rfl hnil
      | cons a as =>
        obtain ⟨hfits, hrest⟩ := List.forall_mem_cons.mp hall
        rw [encodeAll_cons, List.length_append, encode_length] at h
        rw [encodeAll_cons, (next_iff _ a (encodeAll as)).mpr ⟨hfits, rfl⟩]
        dsimp only
        rw [(ih (by omega)).mpr ⟨hrest, rfl⟩]
        rfl

/-- items up to the first octets that are none; there are at most `n` -/
def readWhile : Nat → Bytes → List Tlv
  | 0, b => []
  | n + 1, b =>
    match next b with
    | none => []
    | some (a, rest) => a :: readWhile n rest

end Tlv
