import Racoon2.Iked.Keymat

/-!
# prf+ in the daemon and in the tickets

`ikev2_prf_plus` and `r2ticket_prf_plus` are two loops over one recursion:

* `block`, `firstOctets`: T1 = prf(K, S | 1), Ti = prf(K, T(i-1) | S | i), and their octets;
* `prfPlusRun`: `ikev2_prf_plus` with the counter octets that it gives to the prf;
* `ticketPrfPlus`: `r2ticket_prf_plus`, which has no test of the length.
-/

set_option linter.unusedVariables false

namespace Ikev2
open Bytes

/-! ## the recursion -/

/-- a keyed function; every output has `len` octets -/
structure KeyedFn where
  len : Nat
  apply : Bytes → Bytes → Bytes
  apply_length : ∀ key msg, (apply key msg).length = len

/-- the keyed hash of a function that does not fail -/
def KeyedFn.prf (f : KeyedFn) : Prf where
  resultLen := f.len
  hash key msg := some (f.apply key msg)
  hash_length key msg out h := by rw [← Option.some.inj h, f.apply_length]

section
variable (f : KeyedFn) (key seed : Bytes)

/-- T0 is empty, Ti = prf(K, T(i-1) | S | i) -/
def block : Nat → Bytes
  | 0 => []
  | i + 1 => f.apply key (block i ++ seed ++ [UInt8.ofNat (i + 1)])

/-- T1 | ... | Tk -/
def blocks (k : Nat) : Bytes := (List.range k).flatMap fun i => block f key seed (i + 1)

/-- the first `n` octets of T1 | T2 | ...: `n` blocks have at least as many -/
def firstOctets (n : Nat) : Bytes := (blocks f key seed n).take n

/-- `k` blocks after `t`, with a counter that is an octet -/
def blocksFrom : Nat → Bytes → UInt8 → Bytes
  | 0, _, _ => []
  | k + 1, t, ctr =>
    let out := f.apply key (t ++ seed ++ [ctr])
    out ++ blocksFrom k out (ctr + 1)

end

/-! ## ikev2_prf_plus -/

section
variable (prf : Prf)

/-- the loop of `ikev2_prf_plus`, and the counter octets that it uses -/
def prfPlusRunLoop (key seed : Bytes) : Nat → Bytes → UInt8 → Nat → List UInt8 × Option Bytes
  | 0, _, _, need => ([], if need = 0 then some [] else none)
  | fuel + 1, t, byte, need =>
    if need = 0 then ([], some [])
    else match prf.hash key (t ++ seed ++ [byte]) with
      | none => ([byte], none)
      | some out =>
        let rest := prfPlusRunLoop key seed fuel out (byte + 1) (need - prf.resultLen)
        (byte :: rest.1, rest.2.map (out.take need ++ ·))

/-- `ikev2_prf_plus` -/
def prfPlusRun (key seed : Bytes) (need : Nat) : List UInt8 × Option Bytes :=
  if prf.resultLen * 255 < need then ([], none) else prfPlusRunLoop prf key seed 255 [] 1 need

theorem prfPlusRunLoop_result (key seed : Bytes) (fuel : Nat) : ∀ (t : Bytes) (byte : UInt8)
    (need : Nat),
    (prfPlusRunLoop prf key seed fuel t byte need).2 = prfPlusLoop prf key seed fuel t byte need := by
  induction fuel with
  | zero =>
    intro t byte need
    rfl
  | succ fuel ih =>
    intro t byte need
    unfold prfPlusRunLoop prfPlusLoop
    split
    · rfl
    · cases prf.hash key (t ++ seed ++ [byte]) with
      | none => rfl
      | some out => exact congrArg (Option.map (out.take need ++ ·)) (ih out (byte + 1) _)

/-- the run gives what `ikev2_prf_plus` gives -/
theorem prfPlusRun_result (key seed : Bytes) (need : Nat) :
    (prfPlusRun prf key seed need).2 = prfPlus prf key seed need := by
  unfold prfPlusRun prfPlus
  split
  · rfl
  · exact prfPlusRunLoop_result prf key seed 255 [] 1 need

end

/-! ## r2ticket_prf_plus -/

/-- the loop of `r2ticket_prf_plus`: `acc` is the block before, `produced` octets are written -/
def ticketPrfLoop (md : Prf) (key seed : Bytes) (required : Nat) :
    Nat → Bytes → Nat → UInt8 → List UInt8 × Option Bytes
  | 0, _, produced, _ => ([], if produced < required then none else some [])
  | fuel + 1, acc, produced, ctr =>
    if produced < required then
      match md.hash key ((if produced = 0 then seed else acc ++ seed) ++ [ctr]) with
      | none => ([ctr], none)
      | some t =>
        let take := min (required - produced) md.resultLen
        let rest := ticketPrfLoop md key seed required fuel t (produced + take) (ctr + 1)
        (ctr :: rest.1, rest.2.map (t.take take ++ ·))
    else ([], some [])

/-- `r2ticket_prf_plus`; a block has an octet at least, so `required` rounds are enough -/
def ticketPrfPlus (prfMd : Nat → Option Prf) (prfId : Nat) (key seed : Option Bytes)
    (required : Nat) : List UInt8 × Option Bytes :=
  match prfMd prfId, key, seed with
  | some md, some key, some seed =>
    if required = 0 then ([], none)
    else if md.resultLen = 0 then ([], none)
    else ticketPrfLoop md key seed required required [] 0 1
  | _, _, _ => ([], none)

/-! ## blocks -/

section
variable (f : KeyedFn) (key seed : Bytes)

theorem blocks_succ (k : Nat) :
    blocks f key seed (k + 1) = blocks f key seed k ++ block f key seed (k + 1) := by
  unfold blocks
  rw [List.range_succ, List.flatMap_append, List.flatMap_singleton]

theorem blocks_length (k : Nat) : (blocks f key seed k).length = k * f.len := by
  induction k with
  | zero =>
    rw [Nat.zero_mul]
    rfl
  | succ k ih =>
    rw [blocks_succ, List.length_append, ih, block, f.apply_length, Nat.succ_mul]

theorem blocks_add (k n : Nat) : ∃ rest, blocks f key seed (k + n) = blocks f key seed k ++ rest := by
  induction n with
  | zero => exact ⟨[], (List.append_nil _).symm⟩
  | succ n ih =>
    obtain ⟨rest, hrest⟩ := ih
    exact ⟨rest ++ block f key seed (k + n + 1), by
      rw [← Nat.add_assoc, blocks_succ, hrest, List.append_assoc]⟩

/-- enough blocks begin with the same octets -/
theorem take_blocks {n k : Nat} (hlen : 0 < f.len) (hn : n ≤ k * f.len) :
    (blocks f key seed k).take n = firstOctets f key seed n := by
  have hmany : n ≤ n * f.len := Nat.le_mul_of_pos_right n hlen
  have hshort : ∀ {a b : Nat}, a ≤ b → n ≤ a * f.len →
      (blocks f key seed b).take n = (blocks f key seed a).take n := by
    intro a b hab ha
    obtain ⟨rest, hrest⟩ := blocks_add f key seed a (b - a)
    rw [Nat.add_sub_cancel' hab] at hrest
    rw [hrest, List.take_append_of_le_length (by rw [blocks_length]; exact ha)]
  rcases Nat.le_total n k with hnk | hkn
  · exact hshort hnk hmany
  · exact (hshort hkn hn).symm

/-- the loops' blocks are those of the recursion, the counter taken as an octet -/
theorem blocksFrom_eq (k : Nat) : ∀ i, blocks f key seed i
    ++ blocksFrom f key seed k (block f key seed i) (UInt8.ofNat (i + 1))
      = blocks f key seed (i + k) := by
  induction k with
  | zero =>
    intro i
    exact List.append_nil _
  | succ k ih =>
    intro i
    have hnext : UInt8.ofNat (i + 1) + 1 = UInt8.ofNat (i + 1 + 1) := by
      rw [UInt8.ofNat_add (i + 1) 1]
      rfl
    have hstep := ih (i + 1)
    rw [blocks_succ, List.append_assoc, ← hnext, show i + 1 + k = i + (k + 1) by omega] at hstep
    exact hstep

theorem blocksFrom_succ (k : Nat) (t : Bytes) (ctr : UInt8) :
    blocksFrom f key seed (k + 1) t ctr = f.apply key (t ++ seed ++ [ctr])
      ++ blocksFrom f key seed k (f.apply key (t ++ seed ++ [ctr])) (ctr + 1) := rfl

theorem blocksFrom_start (k : Nat) : blocksFrom f key seed k [] 1 = blocks f key seed k := by
  have h := blocksFrom_eq f key seed k 0
  rw [Nat.zero_add k] at h
  exact h

end

/-! ## the loops -/

/-- `k` counter octets from `ctr` on -/
def countersFrom : Nat → UInt8 → List UInt8
  | 0, _ => []
  | k + 1, ctr => ctr :: countersFrom k (ctr + 1)

section
variable (f : KeyedFn) {key seed : Bytes}

theorem prfPlusRunLoop_blocks (hlen : 0 < f.len) (k : Nat) : ∀ (fuel : Nat) (t : Bytes)
    (byte : UInt8) (need : Nat), k ≤ fuel → need ≤ k * f.len → k * f.len < need + f.len →
    prfPlusRunLoop f.prf key seed fuel t byte need
      = (countersFrom k byte, some ((blocksFrom f key seed k t byte).take need)) := by
  induction k with
  | zero =>
    intro fuel t byte need _ hneed _
    have hzero : need = 0 := by omega
    subst hzero
    cases fuel with
    | zero => rfl
    | succ fuel => rfl
  | succ k ih =>
    intro fuel t byte need hfuel hneed hless
    rw [Nat.succ_mul] at hneed hless
    obtain ⟨fuel, rfl⟩ : ∃ n, fuel = n + 1 := ⟨fuel - 1, by omega⟩
    have hpos : need ≠ 0 := by
      have := Nat.zero_le (k * f.len)
      omega
    unfold prfPlusRunLoop
    rw [if_neg hpos]
    show (byte :: (prfPlusRunLoop f.prf key seed fuel (f.apply key (t ++ seed ++ [byte])) (byte + 1)
        (need - f.len)).1,
      (prfPlusRunLoop f.prf key seed fuel (f.apply key (t ++ seed ++ [byte])) (byte + 1)
        (need - f.len)).2.map ((f.apply key (t ++ seed ++ [byte])).take need ++ ·)) = _
    rw [ih fuel _ _ _ (by omega) (by omega) (by omega), Option.map_some,
      blocksFrom_succ, List.take_append, f.apply_length]
    rfl

/-- before the first block nothing is kept -/
theorem ticketPrfLoop_blocks (hlen : 0 < f.len) {required : Nat} (k : Nat) : ∀ (fuel : Nat)
    (acc : Bytes) (produced : Nat) (ctr : UInt8), k ≤ fuel → (produced = 0 → acc = []) →
    required - produced ≤ k * f.len → k * f.len < required - produced + f.len →
    ticketPrfLoop f.prf key seed required fuel acc produced ctr
      = (countersFrom k ctr,
          some ((blocksFrom f key seed k acc ctr).take (required - produced))) := by
  induction k with
  | zero =>
    intro fuel acc produced ctr _ _ hneed _
    have hdone : ¬ produced < required := by omega
    have hzero : required - produced = 0 := by omega
    rw [hzero]
    cases fuel with
    | zero =>
      unfold ticketPrfLoop
      rw [if_neg hdone]
      rfl
    | succ fuel =>
      unfold ticketPrfLoop
      rw [if_neg hdone]
      rfl
  | succ k ih =>
    intro fuel acc produced ctr hfuel hacc hneed hless
    rw [Nat.succ_mul] at hneed hless
    obtain ⟨fuel, rfl⟩ : ∃ n, fuel = n + 1 := ⟨fuel - 1, by omega⟩
    have hmore : produced < required := by
      have := Nat.zero_le (k * f.len)
      omega
    have hmsg : (if produced = 0 then seed else acc ++ seed) = acc ++ seed := by
      split
      · next hzero =>
        rw [hacc hzero]
        rfl
      · rfl
    have hleft : required - (produced + min (required - produced) f.len)
        = required - produced - f.len := by omega
    have htake : ∀ out : Bytes, out.length = f.len →
        out.take (min (required - produced) f.len) = out.take (required - produced) := by
      intro out hout
      rw [← hout, ← List.take_take, List.take_length]
    unfold ticketPrfLoop
    rw [if_pos hmore, hmsg]
    show (ctr :: (ticketPrfLoop f.prf key seed required fuel (f.apply key (acc ++ seed ++ [ctr]))
        (produced + min (required - produced) f.len) (ctr + 1)).1,
      (ticketPrfLoop f.prf key seed required fuel (f.apply key (acc ++ seed ++ [ctr]))
        (produced + min (required - produced) f.len) (ctr + 1)).2.map
          ((f.apply key (acc ++ seed ++ [ctr])).take (min (required - produced) f.len) ++ ·)) = _
    rw [ih fuel _ _ _ (by omega) (fun h => by omega) (by omega) (by omega), Option.map_some, hleft,
      htake _ (f.apply_length _ _), blocksFrom_succ, List.take_append, f.apply_length]
    rfl

/-- the number of blocks that hold `n` octets -/
theorem block_count (hlen : 0 < f.len) (n : Nat) :
    ∃ k, n ≤ k * f.len ∧ k * f.len < n + f.len ∧ (k ≤ 255 ↔ n ≤ 255 * f.len) := by
  have hmod := Nat.mod_lt (n + (f.len - 1)) hlen
  have hdiv := Nat.div_add_mod (n + (f.len - 1)) f.len
  rw [Nat.mul_comm] at hdiv
  generalize (n + (f.len - 1)) / f.len = k at hdiv
  have hfits : n ≤ k * f.len := by omega
  have hless : k * f.len < n + f.len := by omega
  refine ⟨k, hfits, hless, fun hk => ?_, fun hn => ?_⟩
  · exact hfits.trans (Nat.mul_le_mul_right f.len hk)
  · by_contra hk
    have h256 : 256 * f.len ≤ k * f.len := Nat.mul_le_mul_right f.len (by omega)
    omega

end

/-! ## the two functions -/

/-- the `i`-th octet is the number `i`, from 1 on -/
def Counted (cs : List UInt8) : Prop := ∀ i c, cs[i]? = some c → c.toNat = i + 1

theorem countersFrom_get (k : Nat) : ∀ (i j : Nat), i < k →
    (countersFrom k (UInt8.ofNat j))[i]? = some (UInt8.ofNat (j + i)) := by
  induction k with
  | zero =>
    intro i j hi
    exact absurd hi (Nat.not_lt_zero i)
  | succ k ih =>
    intro i j hi
    cases i with
    | zero => rfl
    | succ i =>
      have hnext : UInt8.ofNat j + 1 = UInt8.ofNat (j + 1) := by
        rw [UInt8.ofNat_add j 1]
        rfl
      show (countersFrom k (UInt8.ofNat j + 1))[i]? = _
      rw [hnext, ih i (j + 1) (by omega), Nat.add_right_comm, Nat.add_assoc]

theorem countersFrom_length (k : Nat) : ∀ c, (countersFrom k c).length = k := by
  induction k with
  | zero =>
    intro c
    rfl
  | succ k ih =>
    intro c
    exact congrArg (· + 1) (ih (c + 1))

/-- octets count up to 255 -/
theorem counted_iff (k : Nat) : Counted (countersFrom k 1) ↔ k ≤ 255 := by
  constructor
  · intro h
    by_contra hk
    have hwrap := h 255 _ (countersFrom_get k 255 1 (by omega))
    exact absurd hwrap (by decide)
  · intro hk i c hc
    have hi : i < k := by
      have := (List.getElem?_eq_some_iff.mp hc).1
      rwa [countersFrom_length] at this
    have hget := countersFrom_get k i 1 hi
    rw [show UInt8.ofNat 1 = 1 from rfl, hc] at hget
    have hvalue : (UInt8.ofNat (1 + i)).toNat = 1 + i :=
      UInt8.toNat_ofNat_of_lt (show 1 + i < 256 by omega)
    rw [Option.some.inj hget, hvalue, Nat.add_comm]

section
variable (f : KeyedFn) (key seed : Bytes) (prfId n : Nat)

/-- both functions on one input: the first octets, or a failure, and no counter that wrapped -/
structure PrfPlusMeets : Prop where
  first : n ≤ 255 * f.len →
    (prfPlusRun f.prf key seed n).2 = some (firstOctets f key seed n)
    ∧ (ticketPrfPlus (fun _ => some f.prf) prfId (some key) (some seed) n).2
        = some (firstOctets f key seed n)
  fails : 255 * f.len < n →
    (prfPlusRun f.prf key seed n).2 = none
    ∧ (ticketPrfPlus (fun _ => some f.prf) prfId (some key) (some seed) n).2 = none
  counted : Counted (prfPlusRun f.prf key seed n).1
    ∧ Counted (ticketPrfPlus (fun _ => some f.prf) prfId (some key) (some seed) n).1

variable {f n}

/-- `ikev2_prf_plus` stops at 255 blocks -/
theorem prfPlusRun_eq (hlen : 0 < f.len) {k : Nat} (hfits : n ≤ k * f.len)
    (hless : k * f.len < n + f.len) (hk : k ≤ 255) :
    prfPlusRun f.prf key seed n = (countersFrom k 1, some (firstOctets f key seed n)) := by
  have hbound : n ≤ f.prf.resultLen * 255 := by
    rw [Nat.mul_comm]
    exact hfits.trans (Nat.mul_le_mul_right f.len hk)
  unfold prfPlusRun
  rw [if_neg (Nat.not_lt.mpr hbound), prfPlusRunLoop_blocks f hlen k 255 [] 1 n hk hfits hless,
    blocksFrom_start, take_blocks f key seed hlen hfits]

/-- `r2ticket_prf_plus` goes on for as many blocks as it takes -/
theorem ticketPrfPlus_eq (hlen : 0 < f.len) (hn : 0 < n) {k : Nat} (hfits : n ≤ k * f.len)
    (hless : k * f.len < n + f.len) :
    ticketPrfPlus (fun _ => some f.prf) prfId (some key) (some seed) n
      = (countersFrom k 1, some (firstOctets f key seed n)) := by
  have hk : k ≤ n := by
    by_contra hlt
    have hmul : (n + 1) * f.len ≤ k * f.len := Nat.mul_le_mul_right f.len (by omega)
    have hge : n ≤ n * f.len := Nat.le_mul_of_pos_right n hlen
    rw [Nat.succ_mul] at hmul
    omega
  unfold ticketPrfPlus
  show (if n = 0 then _ else if f.len = 0 then _ else _) = _
  rw [if_neg (Nat.ne_of_gt hn), if_neg (Nat.ne_of_gt hlen),
    ticketPrfLoop_blocks f hlen k n [] 0 1 hk (fun _ => rfl) hfits hless, blocksFrom_start,
    Nat.sub_zero, take_blocks f key seed hlen hfits]

/-- both functions meet the recursion up to 255 blocks, and only there -/
theorem prf_plus_meets (hlen : 0 < f.len) (hn : 0 < n) :
    PrfPlusMeets f key seed prfId n ↔ n ≤ 255 * f.len := by
  obtain ⟨k, hfits, hless, hcount⟩ := block_count f hlen n
  have hticket := ticketPrfPlus_eq key seed prfId hlen hn hfits hless
  constructor
  · intro h
    by_contra hmany
    have hnone := (h.fails (Nat.not_le.mp hmany)).2
    rw [hticket] at hnone
    cases hnone
  · intro hbound
    have hrun := prfPlusRun_eq key seed hlen hfits hless (hcount.mpr hbound)
    refine ⟨fun _ => ?_, fun hmany => absurd hbound (Nat.not_le.mpr hmany), ?_⟩
    · rw [hrun, hticket]
      exact ⟨rfl, rfl⟩
    · rw [hrun, hticket]
      have hcounted := (counted_iff k).mpr (hcount.mpr hbound)
      exact ⟨hcounted, hcounted⟩

end

/-- a keyed function with one octet -/
def lengthFn : KeyedFn where
  len := 1
  apply key msg := [UInt8.ofNat (key.length + msg.length)]
  apply_length _ _ := rfl

theorem prf_plus_meets_three : 0 < lengthFn.len ∧ PrfPlusMeets lengthFn [1] [2] 5 3 :=
  ⟨by decide, (prf_plus_meets [1] [2] 5 (by decide) (by decide)).mpr (by decide)⟩

/-- 256 blocks of one octet: the counter of the last one is 0, and the ticket's keys come out -/
theorem ticket_counter_wraps :
    ¬ PrfPlusMeets lengthFn [1] [2] 5 256
    ∧ 0 ∈ (ticketPrfPlus (fun _ => some lengthFn.prf) 5 (some [1]) (some [2]) 256).1
    ∧ (prfPlusRun lengthFn.prf [1] [2] 256).2 = none := by
  have hticket := ticketPrfPlus_eq (f := lengthFn) [1] [2] 5 (by decide) (show 0 < 256 by decide)
    (k := 256) (by decide) (by decide)
  refine ⟨fun h => ?_, ?_, rfl⟩
  · have hnone := (h.fails (by decide)).2
    rw [hticket] at hnone
    cases hnone
  · rw [hticket]
    exact List.mem_of_getElem? (countersFrom_get 256 255 1 (by decide))

end Ikev2
