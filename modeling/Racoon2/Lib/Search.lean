import Racoon2.Lib.Prefix

/-!
# Octet strings as counters, and a search from one candidate to the next

`incr` and `decr` count the number that the octets write up and down, and wrap at the ends.
`scan` is the loop `for (a = first; within(a); a = next(a)) if (!used(a)) return a;`.  Where
`next` goes round it need not end: `fuel` is then the number of the candidates there are.

* `value_incr_iterate`   the octets after `k` steps;
* `incr_iterate_eq`      every string of the same length is reached;
* `scan_found`           the answer is the first candidate that is not used;
* `scan_exhausted`       every candidate up to one outside was used;
* `scan_forever`         every candidate was used.
-/

set_option linter.unusedVariables false

namespace Bytes

/-- the octets counted up, and whether the count went over the first octet -/
def incrCarry : Bytes → Bytes × Bool
  | [] => ([], true)
  | x :: xs =>
    if (incrCarry xs).2 then ((x + 1) :: (incrCarry xs).1, x + 1 == 0)
    else (x :: (incrCarry xs).1, false)

def incr (b : Bytes) : Bytes := (incrCarry b).1

def decrBorrow : Bytes → Bytes × Bool
  | [] => ([], true)
  | x :: xs =>
    if (decrBorrow xs).2 then ((x - 1) :: (decrBorrow xs).1, x == 0)
    else (x :: (decrBorrow xs).1, false)

def decr (b : Bytes) : Bytes := (decrBorrow b).1

theorem incr_length (b : Bytes) : (incr b).length = b.length := by
  unfold incr
  induction b with
  | nil => rfl
  | cons x xs ih =>
    unfold incrCarry
    split
    · rw [List.length_cons, List.length_cons, ih]
    · rw [List.length_cons, List.length_cons, ih]

theorem decr_length (b : Bytes) : (decr b).length = b.length := by
  unfold decr
  induction b with
  | nil => rfl
  | cons x xs ih =>
    unfold decrBorrow
    split
    · rw [List.length_cons, List.length_cons, ih]
    · rw [List.length_cons, List.length_cons, ih]

/-- with the carry counted, nothing wraps -/
theorem incrCarry_value (b : Bytes) :
    value (incrCarry b).1 + (if (incrCarry b).2 then 256 ^ b.length else 0) = value b + 1 := by
  induction b with
  | nil => rfl
  | cons x xs ih =>
    have hlen : (incrCarry xs).1.length = xs.length := incr_length xs
    have hx := x.toNat_lt
    unfold incrCarry
    by_cases hc : (incrCarry xs).2 = true
    · rw [if_pos hc] at ih ⊢
      dsimp only
      rw [value, hlen, value, List.length_cons, Nat.pow_succ]
      by_cases h0 : x + 1 = 0
      · have h255 : x.toNat = 255 := by
          have h := congrArg UInt8.toNat h0
          rw [UInt8.toNat_add] at h
          simp at h
          omega
        rw [h0, h255]
        simp only [beq_self_eq_true, if_true, UInt8.toNat_zero]
        omega
      · have hne : x.toNat ≠ 255 := by
          intro h255
          apply h0
          apply UInt8.toNat_inj.mp
          rw [UInt8.toNat_add, h255]
          rfl
        have hsucc : (x + 1).toNat = x.toNat + 1 := by
          rw [UInt8.toNat_add]
          simp
          omega
        rw [hsucc, beq_eq_false_iff_ne.mpr h0, Nat.succ_mul]
        simp only [Bool.false_eq_true, if_false]
        omega
    · rw [if_neg hc] at ih ⊢
      dsimp only
      rw [value, hlen, value]
      simp only [Bool.false_eq_true, if_false]
      omega

theorem value_incr (b : Bytes) : value (incr b) = (value b + 1) % 256 ^ b.length := by
  have hval := incrCarry_value b
  have hlt := value_lt (incr b)
  rw [incr_length] at hlt
  unfold incr at hlt ⊢
  split at hval
  · rw [← hval, Nat.add_mod_right, Nat.mod_eq_of_lt hlt]
  · rw [← hval, Nat.add_zero, Nat.mod_eq_of_lt hlt]

theorem incr_iterate_length (b : Bytes) (k : Nat) : (incr^[k] b).length = b.length := by
  induction k with
  | zero => rfl
  | succ k ih => rw [Function.iterate_succ_apply', incr_length, ih]

theorem value_incr_iterate (b : Bytes) (k : Nat) :
    value (incr^[k] b) = (value b + k) % 256 ^ b.length := by
  induction k with
  | zero => exact (Nat.mod_eq_of_lt (value_lt b)).symm
  | succ k ih =>
    rw [Function.iterate_succ_apply', value_incr, ih, incr_iterate_length, Nat.mod_add_mod]
    rfl

theorem value_inj (a : Bytes) : ∀ b : Bytes, a.length = b.length → value a = value b → a = b := by
  induction a with
  | nil =>
    intro b h _
    exact (List.length_eq_zero_iff.mp h.symm).symm
  | cons x xs ih =>
    intro b h hval
    cases b with
    | nil => simp at h
    | cons y ys =>
      have hl : xs.length = ys.length := by simpa using h
      have hle := (value_cons_le hl).mp (Nat.le_of_eq hval)
      have hge := (value_cons_le hl.symm).mp (Nat.le_of_eq hval.symm)
      rcases hle with hlt | ⟨rfl, hle⟩
      · rcases hge with hgt | ⟨rfl, _⟩
        · exact absurd (UInt8.lt_trans hlt hgt) (UInt8.lt_irrefl x)
        · exact absurd hlt (UInt8.lt_irrefl y)
      · have hge := (hge.resolve_left (UInt8.lt_irrefl x)).2
        rw [ih ys hl (Nat.le_antisymm hle hge)]

/-- counting up from `a` reaches every larger string before the wrap -/
theorem incr_iterate_eq {a b : Bytes} (hlen : a.length = b.length) (hle : value a ≤ value b) :
    incr^[value b - value a] a = b := by
  apply value_inj
  · rw [incr_iterate_length, hlen]
  · have hlt := value_lt b
    rw [value_incr_iterate, hlen, Nat.mod_eq_of_lt (by omega)]
    omega

theorem value_append (a b : Bytes) : value (a ++ b) = value a * 256 ^ b.length + value b := by
  induction a with
  | nil => simp [value]
  | cons x xs ih =>
    rw [List.cons_append, value, ih, value, List.length_append, Nat.pow_add]
    ring

end Bytes

namespace Search

inductive Outcome (α : Type) where
  | found (a : α)
  | exhausted
  | forever
  deriving DecidableEq, Repr

variable {α : Type} (next : α → α) (within used : α → Bool)

def scan : Nat → α → Outcome α
  | 0, _ => .forever
  | fuel + 1, a =>
    if within a then if used a then scan fuel (next a) else .found a
    else .exhausted

variable {next within used}

theorem scan_found {fuel : Nat} : ∀ {a b : α}, scan next within used fuel a = .found b →
    ∃ k, b = next^[k] a ∧ within b = true ∧ used b = false
      ∧ ∀ j < k, within (next^[j] a) = true ∧ used (next^[j] a) = true := by
  induction fuel with
  | zero => exact fun h => nomatch h
  | succ fuel ih =>
    intro a b h
    unfold scan at h
    split at h
    · rename_i hw
      split at h
      · rename_i hu
        obtain ⟨k, hb, hbw, hbu, hall⟩ := ih h
        refine ⟨k + 1, hb, hbw, hbu, fun j hj => ?_⟩
        cases j with
        | zero => exact ⟨hw, hu⟩
        | succ j => exact hall j (by omega)
      · rename_i hu
        cases h
        exact ⟨0, rfl, hw, by simpa using hu, fun j hj => absurd hj (Nat.not_lt_zero j)⟩
    · cases h

theorem scan_exhausted {fuel : Nat} : ∀ {a : α}, scan next within used fuel a = .exhausted →
    ∃ k, within (next^[k] a) = false
      ∧ ∀ j < k, within (next^[j] a) = true ∧ used (next^[j] a) = true := by
  induction fuel with
  | zero => exact fun h => nomatch h
  | succ fuel ih =>
    intro a h
    unfold scan at h
    split at h
    · rename_i hw
      split at h
      · rename_i hu
        obtain ⟨k, hk, hall⟩ := ih h
        refine ⟨k + 1, hk, fun j hj => ?_⟩
        cases j with
        | zero => exact ⟨hw, hu⟩
        | succ j => exact hall j (by omega)
      · cases h
    · rename_i hw
      exact ⟨0, by simpa using hw, fun j hj => absurd hj (Nat.not_lt_zero j)⟩

theorem scan_forever {fuel : Nat} : ∀ {a : α}, scan next within used fuel a = .forever →
    ∀ j < fuel, within (next^[j] a) = true ∧ used (next^[j] a) = true := by
  induction fuel with
  | zero => exact fun _ j hj => absurd hj (Nat.not_lt_zero j)
  | succ fuel ih =>
    intro a h j hj
    unfold scan at h
    split at h
    · rename_i hw
      split at h
      · rename_i hu
        cases j with
        | zero => exact ⟨hw, hu⟩
        | succ j => exact ih h j (by omega)
      · cases h
    · cases h

end Search
