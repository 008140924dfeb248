import Racoon2.Lib.Bytes

/-!
# Octet strings of one length as numbers: `memcmp` and address prefixes

* `value b`              the number the octets write;
* `memLe_iff`            `memcmp` compares the numbers;
* `value_le_value`       octets that are all smaller write a smaller number;
* `octets_between`       a number between the two ends of a prefix has its octets between theirs;
* `prefixLow`, `prefixHigh`   the first and the last address of a prefix.
-/

namespace Bytes

def value : Bytes → Nat
  | [] => 0
  | x :: xs => x.toNat * 256 ^ xs.length + value xs

/-- `memcmp(a, b, n) <= 0` for two buffers of `n` octets -/
def memLe : Bytes → Bytes → Bool
  | [], _ => true
  | _ :: _, [] => false
  | x :: xs, y :: ys => if x = y then memLe xs ys else decide (x < y)

/-- the octet of the netmask at `i` -/
def octetMask (prefixlen i : Nat) : UInt8 :=
  if 8 * (i + 1) ≤ prefixlen then 0xFF
  else if 8 * i < prefixlen then 0xFF <<< UInt8.ofNat (8 * (i + 1) - prefixlen)
  else 0

def prefixLow (a : Bytes) (prefixlen : Nat) : Bytes :=
  a.mapIdx fun i x => x &&& octetMask prefixlen i

def prefixHigh (a : Bytes) (prefixlen : Nat) : Bytes :=
  a.mapIdx fun i x => x ||| ~~~ octetMask prefixlen i

/-! ## numbers -/

theorem value_lt (b : Bytes) : value b < 256 ^ b.length := by
  induction b with
  | nil => simp [value]
  | cons x xs ih =>
    have hx := x.toNat_lt
    have hmul : x.toNat * 256 ^ xs.length ≤ 255 * 256 ^ xs.length :=
      Nat.mul_le_mul_right _ (by omega)
    rw [value, List.length_cons, Nat.pow_succ]
    omega

/-- the first octets decide, unless they are the same -/
theorem value_cons_le {x y : UInt8} {xs ys : Bytes} (h : xs.length = ys.length) :
    value (x :: xs) ≤ value (y :: ys) ↔ x < y ∨ (x = y ∧ value xs ≤ value ys) := by
  have hxs := value_lt xs
  have hys := value_lt ys
  rw [value, value, h] at *
  rcases Nat.lt_trichotomy x.toNat y.toNat with hlt | heq | hgt
  · have hmul : (x.toNat + 1) * 256 ^ ys.length ≤ y.toNat * 256 ^ ys.length :=
      Nat.mul_le_mul_right _ hlt
    rw [Nat.succ_mul] at hmul
    refine ⟨fun _ => Or.inl (UInt8.lt_iff_toNat_lt.mpr hlt), fun _ => by omega⟩
  · have he : x = y := UInt8.toNat_inj.mp heq
    subst he
    constructor
    · intro hle
      exact Or.inr ⟨rfl, by omega⟩
    · intro hor
      rcases hor with hlt | ⟨_, hle⟩
      · exact absurd hlt (UInt8.lt_irrefl x)
      · omega
  · have hmul : (y.toNat + 1) * 256 ^ ys.length ≤ x.toNat * 256 ^ ys.length :=
      Nat.mul_le_mul_right _ hgt
    rw [Nat.succ_mul] at hmul
    constructor
    · intro hle
      omega
    · intro hor
      rcases hor with hlt | ⟨he, _⟩
      · have := UInt8.lt_iff_toNat_lt.mp hlt
        omega
      · rw [he] at hgt
        omega

theorem memLe_iff (a : Bytes) : ∀ b : Bytes, a.length = b.length →
    (memLe a b = true ↔ value a ≤ value b) := by
  induction a with
  | nil =>
    intro b h
    simp [memLe, value]
  | cons x xs ih =>
    intro b h
    cases b with
    | nil => simp at h
    | cons y ys =>
      have hl : xs.length = ys.length := by simpa using h
      rw [value_cons_le hl]
      unfold memLe
      split
      · rename_i he
        rw [ih ys hl, he]
        constructor
        · intro hle
          exact Or.inr ⟨rfl, hle⟩
        · intro hor
          rcases hor with hlt | ⟨_, hle⟩
          · exact absurd hlt (UInt8.lt_irrefl y)
          · exact hle
      · rename_i hne
        rw [decide_eq_true_iff]
        constructor
        · exact Or.inl
        · intro hor
          rcases hor with hlt | ⟨he, _⟩
          · exact hlt
          · exact absurd he hne

theorem memLe_total (a b : Bytes) (h : a.length = b.length) :
    ¬ memLe a b = true → value b ≤ value a := by
  rw [memLe_iff a b h]
  omega

theorem value_le_value (a : Bytes) : ∀ b : Bytes, a.length = b.length →
    (∀ i < a.length, byteAt a i ≤ byteAt b i) → value a ≤ value b := by
  induction a with
  | nil =>
    intro b h _
    simp [value]
  | cons x xs ih =>
    intro b h hle
    cases b with
    | nil => simp at h
    | cons y ys =>
      have hl : xs.length = ys.length := by simpa using h
      have hxy : x ≤ y := hle 0 (by simp)
      have htail : value xs ≤ value ys := by
        refine ih ys hl fun i hi => ?_
        exact hle (i + 1) (by simpa using hi)
      rw [value_cons_le hl]
      by_cases he : x = y
      · exact Or.inr ⟨he, htail⟩
      · exact Or.inl (UInt8.lt_of_le_of_ne hxy he)

/-- as long as the octets of both ends are the same, a number between the ends has them too; the
next octet is between theirs -/
theorem octets_between (lo : Bytes) : ∀ (a hi : Bytes) (k : Nat), lo.length = a.length →
    a.length = hi.length → k ≤ lo.length → (∀ i, i + 1 < k → byteAt lo i = byteAt hi i) →
    value lo ≤ value a → value a ≤ value hi →
    ∀ i < k, byteAt lo i ≤ byteAt a i ∧ byteAt a i ≤ byteAt hi i := by
  induction lo with
  | nil =>
    intro a hi k _ _ hk _ _ _ i hik
    simp at hk
    omega
  | cons x xs ih =>
    intro a hi k hla hlh hk hsame hlo hhi i hik
    cases a with
    | nil => simp at hla
    | cons y ys =>
      cases hi with
      | nil => simp at hlh
      | cons z zs =>
        have hl1 : xs.length = ys.length := by simpa using hla
        have hl2 : ys.length = zs.length := by simpa using hlh
        rw [value_cons_le hl1] at hlo
        rw [value_cons_le hl2] at hhi
        have hxy : x ≤ y := by
          rcases hlo with h | ⟨h, _⟩
          · exact UInt8.le_of_lt h
          · rw [h]
            exact UInt8.le_refl y
        have hyz : y ≤ z := by
          rcases hhi with h | ⟨h, _⟩
          · exact UInt8.le_of_lt h
          · rw [h]
            exact UInt8.le_refl z
        cases i with
        | zero => exact ⟨hxy, hyz⟩
        | succ i =>
          have hxz : x = z := hsame 0 (by omega)
          subst hxz
          have hyx : y = x := UInt8.le_antisymm hyz hxy
          subst hyx
          have hlo' := (hlo.resolve_left (UInt8.lt_irrefl y)).2
          have hhi' := (hhi.resolve_left (UInt8.lt_irrefl y)).2
          refine ih ys zs (k - 1) hl1 hl2 (by simp at hk; omega) (fun j hj => ?_) hlo' hhi' i
            (by omega)
          exact hsame (j + 1) (by omega)

/-! ## prefixes -/

theorem prefixLow_length (a : Bytes) (n : Nat) : (prefixLow a n).length = a.length := by
  unfold prefixLow
  rw [List.length_mapIdx]

theorem prefixHigh_length (a : Bytes) (n : Nat) : (prefixHigh a n).length = a.length := by
  unfold prefixHigh
  rw [List.length_mapIdx]

theorem byteAt_mapIdx (a : Bytes) (f : Nat → UInt8 → UInt8) (i : Nat) (h : i < a.length) :
    byteAt (a.mapIdx f) i = f i (byteAt a i) := by
  unfold byteAt
  rw [List.getD_eq_getElem?_getD, List.getD_eq_getElem?_getD, List.getElem?_mapIdx,
    List.getElem?_eq_getElem h]
  rfl

theorem byteAt_prefixLow (a : Bytes) (n i : Nat) (h : i < a.length) :
    byteAt (prefixLow a n) i = byteAt a i &&& octetMask n i := byteAt_mapIdx a _ i h

theorem byteAt_prefixHigh (a : Bytes) (n i : Nat) (h : i < a.length) :
    byteAt (prefixHigh a n) i = byteAt a i ||| ~~~ octetMask n i := byteAt_mapIdx a _ i h

theorem octetMask_beyond (n i : Nat) (h : (n + 7) / 8 ≤ i) : octetMask n i = 0 := by
  unfold octetMask
  rw [if_neg (by omega), if_neg (by omega)]

theorem octetMask_full (n i : Nat) (h : i + 1 < (n + 7) / 8) : octetMask n i = 0xFF := by
  unfold octetMask
  rw [if_pos (by omega)]

theorem prefixLow_le (a : Bytes) (n i : Nat) (h : i < a.length) :
    byteAt (prefixLow a n) i ≤ byteAt a i := by
  rw [byteAt_prefixLow a n i h]
  exact UInt8.and_le_left

theorem le_prefixHigh (a : Bytes) (n i : Nat) (h : i < a.length) :
    byteAt a i ≤ byteAt (prefixHigh a n) i := by
  rw [byteAt_prefixHigh a n i h]
  exact UInt8.left_le_or

theorem prefixLow_beyond (a : Bytes) (n i : Nat) (h : i < a.length) (hn : (n + 7) / 8 ≤ i) :
    byteAt (prefixLow a n) i = 0 := by
  rw [byteAt_prefixLow a n i h, octetMask_beyond n i hn, UInt8.and_zero]

theorem prefixHigh_beyond (a : Bytes) (n i : Nat) (h : i < a.length) (hn : (n + 7) / 8 ≤ i) :
    byteAt (prefixHigh a n) i = 255 := by
  rw [byteAt_prefixHigh a n i h, octetMask_beyond n i hn]
  exact UInt8.or_neg_one

theorem prefix_full (a : Bytes) (n i : Nat) (h : i < a.length) (hn : i + 1 < (n + 7) / 8) :
    byteAt (prefixLow a n) i = byteAt (prefixHigh a n) i := by
  rw [byteAt_prefixLow a n i h, byteAt_prefixHigh a n i h, octetMask_full n i hn]
  have h1 : byteAt a i &&& 0xFF = byteAt a i := UInt8.and_neg_one
  have h2 : byteAt a i ||| ~~~ 0xFF = byteAt a i := UInt8.or_zero
  rw [h1, h2]

end Bytes
