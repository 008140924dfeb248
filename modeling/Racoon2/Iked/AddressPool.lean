import Racoon2.Lib.Run
import Racoon2.Lib.Search
import Racoon2.Iked.TrafficSelector

/-!
# The address pools of the configuration

`addresspool.c` with the loader `rcf_fix_addresspool`.  Each range has a list of the addresses
leased from it; all these lists are the one list `leases` here, where `poolHead` is the range on
whose list a record is.  `addrpool_check` looks at the list of one range only, which is what the
conditions below are about.

* `fixAddresspool`      the ranges of a pool;
* `addrpoolAllocAny`, `addrpoolAssign`, `addrpoolAssignIp6intf`   the three calls;
* `AddrPool.Sound`      distinct addresses, each in a range;
* `poolStep_sound`      a call (the step);
* `pool_leases`         every run of calls that lease no address twice.
-/

set_option linter.unusedVariables false

namespace Ikev2
open Bytes

/-! ## the configuration -/

structure IpAddr where
  af : Family
  octets : Bytes
  octets_length : octets.length = af.size
  deriving Repr

instance IpAddr.decEq : DecidableEq IpAddr := fun a b =>
  decidable_of_iff (a.af = b.af ∧ a.octets = b.octets) (by
    cases a
    cases b
    simp)

/-- `struct rcf_address_pool_item`, its leases apart -/
structure PoolRange where
  af : Family
  start : Bytes
  stop : Bytes
  start_length : start.length = af.size
  stop_length : stop.length = af.size
  deriving Repr

instance PoolRange.decEq : DecidableEq PoolRange := fun a b =>
  decidable_of_iff (a.af = b.af ∧ a.start = b.start ∧ a.stop = b.stop) (by
    cases a
    cases b
    simp)

/-- an entry of the configuration, its addresses read by `getaddrinfo` -/
inductive PoolEntry where
  | bounds (start stop : IpAddr)
  | cidr (addr : IpAddr) (prefixlen : Nat)

/-- `addrpool_cidr_expand` -/
def addrpoolCidrExpand (a : IpAddr) (prefixlen : Nat) : Option PoolRange :=
  if 8 * a.af.size < prefixlen then none
  else if 8 * a.af.size = prefixlen then
    some ⟨a.af, a.octets, a.octets, a.octets_length, a.octets_length⟩
  else if 8 * a.af.size = prefixlen + 1 then
    some ⟨a.af, prefixLow a.octets prefixlen, prefixHigh a.octets prefixlen,
      by rw [prefixLow_length, a.octets_length], by rw [prefixHigh_length, a.octets_length]⟩
  else
    -- network and broadcast address are left out
    some ⟨a.af, incr (prefixLow a.octets prefixlen), decr (prefixHigh a.octets prefixlen),
      by rw [incr_length, prefixLow_length, a.octets_length],
      by rw [decr_length, prefixHigh_length, a.octets_length]⟩

def fixRange : PoolEntry → Option PoolRange
  | .bounds start stop =>
    if h : stop.af = start.af then
      some ⟨start.af, start.octets, stop.octets, start.octets_length, by
        rw [stop.octets_length, h]⟩
    else none
  | .cidr addr prefixlen => addrpoolCidrExpand addr prefixlen

/-- the loop of `rcf_fix_addresspool`: each range goes to the head of the list -/
def fixAddresspool : List PoolEntry → List PoolRange → Option (List PoolRange)
  | [], pool => some pool
  | e :: es, pool =>
    match fixRange e with
    | none => none
    | some r => fixAddresspool es (r :: pool)

/-! ## leases -/

/-- `struct rcf_address` -/
structure Lease where
  /-- the address of the record -/
  ref : Nat
  /-- the range whose `lease_list` the record is on -/
  poolHead : Nat
  af : Family
  address : Bytes
  /-- used for IPv6 only -/
  prefixlen : Nat
  expiry : Nat × Nat
  deriving DecidableEq, Repr

def Lease.key (a : Lease) : Family × Bytes := (a.af, a.address)

structure AddrPool where
  ranges : List PoolRange
  leases : List Lease
  /-- the next record `rc_calloc` returns -/
  next : Nat
  /-- the `lease_list` of each child SA -/
  held : Nat → List Nat
  /-- a call that does not return -/
  looping : Bool

def AddrPool.start (ranges : List PoolRange) : AddrPool := ⟨ranges, [], 0, fun _ => [], false⟩

def ipv6AddressPrefixLen : Nat := 64

/-- `addrpool_check`: the address is on the list of the range -/
def addrpoolCheck (leases : List Lease) (k : Nat) (addr : Bytes) : Bool :=
  leases.any fun a => a.poolHead == k && a.address == addr

inductive PoolAnswer where
  | lease (k : Nat) (addr : Bytes)
  | refused
  | forever
  deriving DecidableEq, Repr

section
variable (leases : List Lease)

/-- the loop over the ranges of a pool, the first of which has number `k` -/
def rangesFrom (ask : Nat → PoolRange → Option PoolAnswer) : Nat → List PoolRange → PoolAnswer
  | _, [] => .refused
  | k, r :: rs =>
    match ask k r with
    | none => rangesFrom ask (k + 1) rs
    | some a => a

/-- the inner loop of `rc_addrpool_alloc_any` -/
def rangeScan (k : Nat) (r : PoolRange) : Search.Outcome Bytes :=
  Search.scan incr (fun a => memLe a r.stop) (addrpoolCheck leases k) (256 ^ r.af.size) r.start

def askAny (af : Family) (k : Nat) (r : PoolRange) : Option PoolAnswer :=
  if af ≠ r.af then none
  else match rangeScan leases k r with
    | .found a => some (.lease k a)
    | .exhausted => none
    | .forever => some .forever

/-- `rc_addrpool_alloc_any` -/
def addrpoolAllocAny (af : Family) (ranges : List PoolRange) : PoolAnswer :=
  rangesFrom (askAny leases af) 0 ranges

def askAddr (addr : IpAddr) (k : Nat) (r : PoolRange) : Option PoolAnswer :=
  if addr.af ≠ r.af then none
  else if !memLe r.start addr.octets || !memLe addr.octets r.stop then none
  else if addrpoolCheck leases k addr.octets then none
  else some (.lease k addr.octets)

/-- `rc_addrpool_assign` -/
def addrpoolAssign (addr : IpAddr) (ranges : List PoolRange) : PoolAnswer :=
  rangesFrom (askAddr leases addr) 0 ranges

/-- try a different prefix -/
def prefixNext (a : Bytes) : Bytes := incr (a.take 8) ++ a.drop 8

/-- the inner loop of `rc_addrpool_assign_ip6intf` -/
def prefixScan (addr : Bytes) (k : Nat) (r : PoolRange) : Search.Outcome Bytes :=
  Search.scan prefixNext (fun a => memLe a r.stop) (addrpoolCheck leases k) (256 ^ 16)
    (r.start.take 8 ++ addr.drop 8)

def askPrefix (addr : Bytes) (k : Nat) (r : PoolRange) : Option PoolAnswer :=
  if r.af ≠ .inet6 then none
  else match prefixScan leases addr k r with
    -- a free prefix was looked for, and the address of the request is leased
    | .found _ => some (.lease k addr)
    | .exhausted => none
    | .forever => some .forever

/-- `rc_addrpool_assign_ip6intf` -/
def addrpoolAssignIp6intf (addr : Bytes) (ranges : List PoolRange) : PoolAnswer :=
  rangesFrom (askPrefix leases addr) 0 ranges

end

/-! ## calls -/

section
variable (p : AddrPool)

/-- `rc_address_new` and the insertion into the list of the child SA -/
def AddrPool.give (child : Nat) (mem : Bool) (af : Family) : PoolAnswer → AddrPool
  | .lease k addr =>
    if mem then { p with
      leases := ⟨p.next, k, af, addr, ipv6AddressPrefixLen, (0, 0)⟩ :: p.leases
      next := p.next + 1
      held := Function.update p.held child (p.next :: p.held child) }
    else p
  | .refused => p
  | .forever => { p with looping := true }

/-- the loop of `rc_addrpool_move` over the list of the source; `mem` says which of its calls of
`rc_address_new` succeed -/
def moveLoop : List Bool → List Nat → List Lease → Nat → List Nat → List Lease × Nat × List Nat
  | _, [], leases, next, dest => (leases, next, dest)
  | mem, r :: rs, leases, next, dest =>
    match leases.find? (fun a => a.ref == r) with
    | none => moveLoop mem.tail rs leases next dest
    | some a =>
      if mem.headD true then
        moveLoop mem.tail rs (({ a with ref := next } :: leases).filter fun b => b.ref != r)
          (next + 1) (next :: dest)
      else moveLoop mem.tail rs (leases.filter fun b => b.ref != r) next dest

/-- `rc_addrpool_move` -/
def AddrPool.move (dest src : Nat) (mem : List Bool) : AddrPool :=
  let held := Function.update p.held src []
  let moved := moveLoop mem (p.held src) p.leases p.next (held dest)
  { p with leases := moved.1, next := moved.2.1, held := Function.update held dest moved.2.2 }

/-- `rc_addrpool_release_addr` -/
def AddrPool.release (r : Nat) : AddrPool :=
  { p with
    leases := p.leases.filter fun a => a.ref != r
    held := fun child => (p.held child).filter fun x => x != r }

inductive PoolCall where
  | allocAny (child : Nat) (af : Family) (mem : Bool)
  | assign (child : Nat) (addr : IpAddr) (mem : Bool)
  | assignIp6intf (child : Nat) (addr : { a : IpAddr // a.af = .inet6 }) (mem : Bool)
  | move (dest src : Nat) (mem : List Bool)
  | release (r : Nat)
  /-- `rc_addrpool_release_all` -/
  | releaseAll (child : Nat)

def poolStep (call : PoolCall) : AddrPool :=
  if p.looping then p
  else match call with
    | .allocAny child af mem => p.give child mem af (addrpoolAllocAny p.leases af p.ranges)
    | .assign child addr mem => p.give child mem addr.af (addrpoolAssign p.leases addr p.ranges)
    | .assignIp6intf child addr mem =>
      p.give child mem .inet6 (addrpoolAssignIp6intf p.leases addr.1.octets p.ranges)
    | .move dest src mem => p.move dest src mem
    | .release r => p.release r
    | .releaseAll child => (p.held child).foldl AddrPool.release p

end

/-! ## free addresses, and what a call may ask for -/

def PoolRange.Has (r : PoolRange) (addr : Bytes) : Prop :=
  memLe r.start addr = true ∧ memLe addr r.stop = true

/-- the address lies within a range of the pool -/
def AddrPool.Within (p : AddrPool) (af : Family) (addr : Bytes) : Prop :=
  ∃ r ∈ p.ranges, r.af = af ∧ r.Has addr

def Leased (leases : List Lease) (af : Family) (addr : Bytes) : Prop :=
  ∃ a ∈ leases, a.af = af ∧ a.address = addr

instance (leases : List Lease) (af : Family) (addr : Bytes) : Decidable (Leased leases af addr) :=
  inferInstanceAs (Decidable (∃ a ∈ leases, _))

instance (r : PoolRange) (addr : Bytes) : Decidable (r.Has addr) :=
  inferInstanceAs (Decidable (_ ∧ _))

instance (p : AddrPool) (af : Family) (addr : Bytes) : Decidable (p.Within af addr) :=
  inferInstanceAs (Decidable (∃ r ∈ p.ranges, _))

section
variable (leases : List Lease)

def PoolRange.size (r : PoolRange) : Nat := value r.stop + 1 - value r.start

/-- every address of the range is on its own list -/
def PoolRange.full (k : Nat) (r : PoolRange) : Bool :=
  decide (∀ j < r.size, addrpoolCheck leases k (incr^[j] r.start) = true)

/-- the lowest address of the range that is not on its own list was not leased from another
range -/
def PoolRange.lowestFree (k : Nat) (r : PoolRange) : Bool :=
  decide (∀ j < r.size, addrpoolCheck leases k (incr^[j] r.start) = false →
    (∀ i < j, addrpoolCheck leases k (incr^[i] r.start) = true) →
    ¬ Leased leases r.af (incr^[j] r.start))

/-- the ranges up to the first one that is not full: no full one ends at the all-ones address, and
the lowest free address of the last one is not leased from another range -/
def allocOk (af : Family) : Nat → List PoolRange → Bool
  | _, [] => true
  | k, r :: rs =>
    if af ≠ r.af then allocOk af (k + 1) rs
    else if r.full leases k then
      decide (value r.stop + 1 < 256 ^ r.af.size) && allocOk af (k + 1) rs
    else r.lowestFree leases k

/-- no IPv6 range has an address with the interface identifier of `addr` left, nor goes up to the
all-ones prefix -/
def noPrefixLeft (addr : Bytes) (ranges : List PoolRange) : Prop :=
  ∀ k r, ranges[k]? = some r → r.af = .inet6 →
    memLe (List.replicate 8 255 ++ addr.drop 8) r.stop = false ∧
    ∀ q : Bytes, q.length = 8 → value (r.start.take 8) ≤ value q →
      memLe (q ++ addr.drop 8) r.stop = true →
      addrpoolCheck leases k (q ++ addr.drop 8) = true

end

/-- the call leases no address twice, nor one outside of the pool -/
def callOk (p : AddrPool) : PoolCall → Prop
  | .allocAny _ af _ => allocOk p.leases af 0 p.ranges = true
  | .assign _ addr _ => Leased p.leases addr.af addr.octets →
      ∀ k r, p.ranges[k]? = some r → r.af = addr.af → r.Has addr.octets →
        addrpoolCheck p.leases k addr.octets = true
  | .assignIp6intf _ addr _ =>
      (p.Within .inet6 addr.1.octets ∧ ¬ Leased p.leases .inet6 addr.1.octets)
        ∨ noPrefixLeft p.leases addr.1.octets p.ranges
  | .move _ _ _ => True
  | .release _ => True
  | .releaseAll _ => True

/-! ## what the loops find -/

section
variable {leases : List Lease}

theorem PoolRange.nth_value (r : PoolRange) {j : Nat} (hj : j < r.size) :
    value (incr^[j] r.start) = value r.start + j := by
  have hstop := value_lt r.stop
  rw [r.stop_length, ← r.start_length] at hstop
  unfold PoolRange.size at hj
  rw [value_incr_iterate, Nat.mod_eq_of_lt (by omega)]

theorem PoolRange.has_iff (r : PoolRange) {addr : Bytes} (hlen : addr.length = r.af.size) :
    r.Has addr ↔ value r.start ≤ value addr ∧ value addr ≤ value r.stop := by
  unfold PoolRange.Has
  rw [memLe_iff _ _ (by rw [r.start_length, hlen]), memLe_iff _ _ (by rw [r.stop_length, hlen])]

/-- the addresses of a range are its first `size` ones -/
theorem PoolRange.has_nth (r : PoolRange) {addr : Bytes} (hlen : addr.length = r.af.size)
    (h : r.Has addr) : ∃ j < r.size, addr = incr^[j] r.start := by
  obtain ⟨hlo, hhi⟩ := (r.has_iff hlen).mp h
  refine ⟨value addr - value r.start, ?_, ?_⟩
  · unfold PoolRange.size
    omega
  · exact (incr_iterate_eq (by rw [r.start_length, hlen]) hlo).symm

theorem PoolRange.nth_length (r : PoolRange) (j : Nat) : (incr^[j] r.start).length = r.af.size := by
  rw [incr_iterate_length, r.start_length]

theorem PoolRange.nth_has (r : PoolRange) {j : Nat} (hj : j < r.size) :
    r.Has (incr^[j] r.start) := by
  rw [r.has_iff (r.nth_length j), r.nth_value hj]
  unfold PoolRange.size at hj
  omega

/-- an address behind the last one of the range, where the last one is not all ones -/
theorem PoolRange.beyond (r : PoolRange) (h : value r.stop + 1 < 256 ^ r.af.size) :
    memLe (incr^[r.size] r.start) r.stop = false := by
  have hstart := value_lt r.start
  rw [r.start_length] at hstart
  rw [Bool.eq_false_iff, Ne, memLe_iff _ _ (by rw [r.nth_length, r.stop_length]),
    value_incr_iterate, r.start_length]
  unfold PoolRange.size
  rcases Nat.lt_or_ge (value r.stop) (value r.start) with hlt | hge
  · rw [Nat.mod_eq_of_lt (by omega)]
    omega
  · rw [Nat.mod_eq_of_lt (by omega)]
    omega

/-- the loop of a range finds its lowest address that is not on its own list -/
theorem rangeScan_found {k : Nat} {r : PoolRange} {addr : Bytes}
    (h : rangeScan leases k r = .found addr) (hfull : r.full leases k = false) :
    ∃ j < r.size, addr = incr^[j] r.start ∧ addrpoolCheck leases k addr = false
      ∧ ∀ i < j, addrpoolCheck leases k (incr^[i] r.start) = true := by
  obtain ⟨j, hb, _, hfree, hall⟩ := Search.scan_found h
  rw [PoolRange.full, decide_eq_false_iff_not] at hfull
  refine ⟨j, ?_, hb, hfree, fun i hi => (hall i hi).2⟩
  -- past the end of the range every address of it would be on its list
  by_contra hge
  apply hfull
  intro i hi
  exact (hall i (by omega)).2

theorem rangeScan_full {k : Nat} {r : PoolRange} (hfull : r.full leases k = true)
    (hend : value r.stop + 1 < 256 ^ r.af.size) : rangeScan leases k r = .exhausted := by
  rw [PoolRange.full, decide_eq_true_iff] at hfull
  have hout := r.beyond hend
  cases h : rangeScan leases k r with
  | exhausted => rfl
  | found b =>
    obtain ⟨j, hb, hin, hfree, hall⟩ := Search.scan_found h
    rcases Nat.lt_trichotomy j r.size with hlt | heq | hgt
    · rw [hb, hfull j hlt] at hfree
      cases hfree
    · rw [hb, heq, hout] at hin
      cases hin
    · have := (hall _ hgt).1
      rw [hout] at this
      cases this
  | forever =>
    have hfuel : r.size < 256 ^ r.af.size := by
      unfold PoolRange.size
      omega
    have := (Search.scan_forever h _ hfuel).1
    rw [hout] at this
    cases this

theorem rangeScan_not_forever {k : Nat} {r : PoolRange} (hfull : r.full leases k = false) :
    rangeScan leases k r ≠ .forever := by
  intro h
  rw [PoolRange.full, decide_eq_false_iff_not] at hfull
  apply hfull
  intro j hj
  have hstop := value_lt r.stop
  rw [r.stop_length] at hstop
  refine (Search.scan_forever h j ?_).2
  unfold PoolRange.size at hj
  omega

theorem rangeScan_exhausted {k : Nat} {r : PoolRange} (h : rangeScan leases k r = .exhausted)
    {addr : Bytes} (hlen : addr.length = r.af.size) (hhas : r.Has addr) :
    addrpoolCheck leases k addr = true := by
  obtain ⟨n, hout, hall⟩ := Search.scan_exhausted h
  obtain ⟨j, hj, rfl⟩ := r.has_nth hlen hhas
  refine (hall j ?_).2
  -- the loop ends behind the range, not before
  by_contra hge
  have hin := (r.nth_has (by omega : n < r.size)).2
  rw [hout] at hin
  cases hin

theorem rangesFrom_spec (ask : Nat → PoolRange → Option PoolAnswer) (rs : List PoolRange) :
    ∀ k, (rangesFrom ask k rs = .refused ∧ ∀ j r, rs[j]? = some r → ask (k + j) r = none) ∨
      ∃ j r, rs[j]? = some r ∧ ask (k + j) r = some (rangesFrom ask k rs)
        ∧ ∀ i < j, ∀ r', rs[i]? = some r' → ask (k + i) r' = none := by
  induction rs with
  | nil => exact fun k => Or.inl ⟨rfl, fun j r hj => nomatch hj⟩
  | cons r rs ih =>
    intro k
    unfold rangesFrom
    cases hask : ask k r with
    | some a =>
      exact Or.inr ⟨0, r, rfl, hask, fun i hi => absurd hi (Nat.not_lt_zero i)⟩
    | none =>
      have hshift : ∀ i, k + 1 + i = k + (i + 1) := fun i => by omega
      rcases ih (k + 1) with ⟨hres, hnone⟩ | ⟨j, r', hj, hans, hbefore⟩
      · refine Or.inl ⟨hres, fun j r' hj => ?_⟩
        cases j with
        | zero =>
          cases hj
          exact hask
        | succ j => rw [← hshift]; exact hnone j r' hj
      · refine Or.inr ⟨j + 1, r', hj, by rw [← hshift]; exact hans, fun i hi r'' hr => ?_⟩
        cases i with
        | zero =>
          cases hr
          exact hask
        | succ i => rw [← hshift]; exact hbefore i (by omega) r'' hr

/-- what the condition says of a range that the loop comes to -/
theorem allocOk_at {af : Family} (rs : List PoolRange) : ∀ k, allocOk leases af k rs = true →
    ∀ (j : Nat) (r : PoolRange), rs[j]? = some r → r.af = af →
      (∀ i < j, ∀ r' : PoolRange, rs[i]? = some r' → r'.af = af →
        r'.full leases (k + i) = true) →
      if r.full leases (k + j) = true then value r.stop + 1 < 256 ^ r.af.size
      else r.lowestFree leases (k + j) = true := by
  induction rs with
  | nil => exact fun k _ j r hj => nomatch hj
  | cons r0 rs ih =>
    intro k hok j r hj haf hbefore
    have hshift : ∀ i, k + 1 + i = k + (i + 1) := fun i => by omega
    unfold allocOk at hok
    cases j with
    | zero =>
      cases hj
      rw [if_neg (by rw [haf]; simp)] at hok
      by_cases hfull : r0.full leases k = true
      · rw [if_pos hfull, Bool.and_eq_true, decide_eq_true_iff] at hok
        rw [Nat.add_zero, if_pos hfull]
        exact hok.1
      · rw [if_neg hfull] at hok
        rw [Nat.add_zero, if_neg hfull]
        exact hok
    | succ j =>
      rw [← hshift]
      have hrest : allocOk leases af (k + 1) rs = true := by
        by_cases h0 : af ≠ r0.af
        · rwa [if_pos h0] at hok
        · have hfull := hbefore 0 (by omega) r0 rfl (not_not.mp h0).symm
          rw [Nat.add_zero] at hfull
          rw [if_neg h0, if_pos hfull, Bool.and_eq_true] at hok
          exact hok.2
      refine ih (k + 1) hrest j r hj haf fun i hi r' hr' haf' => ?_
      rw [hshift]
      exact hbefore (i + 1) (by omega) r' hr' haf'

theorem full_of_exhausted {k : Nat} {r : PoolRange} (h : rangeScan leases k r = .exhausted) :
    r.full leases k = true := by
  rw [PoolRange.full, decide_eq_true_iff]
  intro j hj
  exact rangeScan_exhausted h (r.nth_length j) (r.nth_has hj)

theorem askAny_none {af : Family} {k : Nat} {r : PoolRange} (h : askAny leases af k r = none)
    (haf : r.af = af) : rangeScan leases k r = .exhausted := by
  unfold askAny at h
  rw [if_neg (by rw [haf]; simp)] at h
  cases hscan : rangeScan leases k r with
  | exhausted => rfl
  | found a => rw [hscan] at h; cases h
  | forever => rw [hscan] at h; cases h

/-- the answers of an allocation in a pool that meets the condition: it is refused, or the address
lies in the range and is not leased from any other -/
theorem addrpoolAllocAny_spec {af : Family} {ranges : List PoolRange}
    (hok : allocOk leases af 0 ranges = true) :
    addrpoolAllocAny leases af ranges = .refused ∨
    ∃ k r addr, addrpoolAllocAny leases af ranges = .lease k addr ∧ ranges[k]? = some r
      ∧ r.af = af ∧ addr.length = af.size ∧ r.Has addr ∧ ¬ Leased leases af addr := by
  rcases rangesFrom_spec (askAny leases af) ranges 0 with ⟨hres, _⟩ | ⟨k, r, hk, hask, hbefore⟩
  · exact Or.inl hres
  · refine Or.inr ?_
    rw [Nat.zero_add] at hask
    show ∃ k r addr, rangesFrom (askAny leases af) 0 ranges = .lease k addr ∧ _
    generalize rangesFrom (askAny leases af) 0 ranges = ans at hask ⊢
    unfold askAny at hask
    split at hask
    · cases hask
    · rename_i haf
      have haf : r.af = af := (not_not.mp haf).symm
      have hat := allocOk_at ranges 0 hok k r hk haf fun i hi r' hr' haf' =>
        full_of_exhausted (askAny_none (hbefore i hi r' hr') haf')
      rw [Nat.zero_add] at hat
      by_cases hfull : r.full leases k = true
      · rw [if_pos hfull] at hat
        rw [rangeScan_full hfull hat] at hask
        cases hask
      · rw [if_neg hfull, PoolRange.lowestFree, decide_eq_true_iff] at hat
        rw [Bool.not_eq_true] at hfull
        cases hscan : rangeScan leases k r with
        | exhausted => rw [hscan] at hask; cases hask
        | forever => exact absurd hscan (rangeScan_not_forever hfull)
        | found addr =>
          rw [hscan] at hask
          cases hask
          obtain ⟨j, hj, hb, hfree, hall⟩ := rangeScan_found hscan hfull
          rw [hb] at hfree
          refine ⟨k, r, addr, rfl, hk, haf, ?_⟩
          rw [hb]
          refine ⟨?_, r.nth_has hj, ?_⟩
          · rw [r.nth_length, haf]
          · rw [← haf]
            exact hat j hj hfree hall

/-- an allocation is refused when every address of every range of the family is on its list -/
theorem addrpoolAllocAny_refused {af : Family} {ranges : List PoolRange}
    (h : addrpoolAllocAny leases af ranges = .refused) {k : Nat} {r : PoolRange}
    (hk : ranges[k]? = some r) (haf : r.af = af) {addr : Bytes} (hlen : addr.length = af.size)
    (hhas : r.Has addr) : addrpoolCheck leases k addr = true := by
  rcases rangesFrom_spec (askAny leases af) ranges 0 with ⟨_, hnone⟩ | ⟨j, r', _, hask, _⟩
  · have hask := hnone k r hk
    rw [Nat.zero_add] at hask
    exact rangeScan_exhausted (askAny_none hask haf) (by rw [hlen, haf]) hhas
  · have hres : rangesFrom (askAny leases af) 0 ranges = .refused := h
    rw [hres] at hask
    unfold askAny at hask
    split at hask
    · cases hask
    · split at hask <;> cases hask

theorem addrpoolAssign_spec (addr : IpAddr) (ranges : List PoolRange) :
    (addrpoolAssign leases addr ranges = .refused ∧ ∀ k r, ranges[k]? = some r → r.af = addr.af →
      r.Has addr.octets → addrpoolCheck leases k addr.octets = true) ∨
    ∃ k r, addrpoolAssign leases addr ranges = .lease k addr.octets ∧ ranges[k]? = some r
      ∧ r.af = addr.af ∧ r.Has addr.octets ∧ addrpoolCheck leases k addr.octets = false := by
  rcases rangesFrom_spec (askAddr leases addr) ranges 0 with ⟨hres, hnone⟩ | ⟨k, r, hk, hask, _⟩
  · refine Or.inl ⟨hres, fun k r hk haf hhas => ?_⟩
    have hask := hnone k r hk
    rw [Nat.zero_add] at hask
    unfold askAddr at hask
    rw [if_neg (by rw [haf]; simp), if_neg (by rw [hhas.1, hhas.2]; simp)] at hask
    split at hask
    · assumption
    · cases hask
  · rw [Nat.zero_add] at hask
    show _ ∨ ∃ k r, rangesFrom (askAddr leases addr) 0 ranges = .lease k addr.octets ∧ _
    generalize rangesFrom (askAddr leases addr) 0 ranges = ans at hask ⊢
    unfold askAddr at hask
    split at hask
    · cases hask
    · rename_i haf
      split at hask
      · cases hask
      · rename_i hhas
        split at hask
        · cases hask
        · rename_i hfree
          cases hask
          simp only [Bool.or_eq_true, Bool.not_eq_true', not_or, Bool.not_eq_false] at hhas
          exact Or.inr ⟨k, r, rfl, hk, (not_not.mp haf).symm, hhas, by simpa using hfree⟩

/-! ### prefixes -/

theorem prefixNext_append {q rest : Bytes} (hq : q.length = 8) :
    prefixNext (q ++ rest) = incr q ++ rest := by
  unfold prefixNext
  rw [← hq, List.take_left, List.drop_left]

theorem prefixNext_iterate {q rest : Bytes} (hq : q.length = 8) (k : Nat) :
    prefixNext^[k] (q ++ rest) = incr^[k] q ++ rest := by
  induction k with
  | zero => rfl
  | succ k ih =>
    rw [Function.iterate_succ_apply', Function.iterate_succ_apply', ih, prefixNext_append]
    rw [incr_iterate_length, hq]

theorem PoolRange.take_length (r : PoolRange) (haf : r.af = .inet6) :
    (r.start.take 8).length = 8 := by
  rw [List.length_take, r.start_length, haf]
  rfl

theorem value_ones : value (List.replicate 8 255) = 256 ^ 8 - 1 := by decide +kernel

/-- the candidate that is found, or one before it, has a prefix from that of the start on, or is
behind the all-ones prefix -/
theorem prefixScan_found {addr b : Bytes} {k : Nat} {r : PoolRange} (haf : r.af = .inet6)
    (h : prefixScan leases addr k r = .found b) :
    memLe (List.replicate 8 255 ++ addr.drop 8) r.stop = true ∨
    ∃ q : Bytes, q.length = 8 ∧ value (r.start.take 8) ≤ value q
      ∧ memLe (q ++ addr.drop 8) r.stop = true
      ∧ addrpoolCheck leases k (q ++ addr.drop 8) = false := by
  obtain ⟨n, hb, hin, hfree, hall⟩ := Search.scan_found h
  have hlen := r.take_length haf
  have hlt := value_lt (r.start.take 8)
  rw [hlen] at hlt
  rw [prefixNext_iterate hlen] at hb
  rcases Nat.lt_or_ge (value (r.start.take 8) + n) (256 ^ 8) with hsmall | hwrap
  · refine Or.inr ⟨incr^[n] (r.start.take 8), ?_, ?_, ?_, ?_⟩
    · rw [incr_iterate_length, hlen]
    · rw [value_incr_iterate, hlen, Nat.mod_eq_of_lt hsmall]
      omega
    · rw [← hb]
      exact hin
    · rw [← hb]
      exact hfree
  · refine Or.inl ?_
    have hin' := (hall (256 ^ 8 - 1 - value (r.start.take 8)) (by omega)).1
    rw [prefixNext_iterate hlen] at hin'
    have hones : incr^[256 ^ 8 - 1 - value (r.start.take 8)] (r.start.take 8)
        = List.replicate 8 255 := by
      rw [← value_ones]
      apply incr_iterate_eq
      · rw [hlen, List.length_replicate]
      · rw [value_ones]
        omega
    rwa [hones] at hin'

/-- before the loop ends it has come to every prefix from that of the start on -/
theorem prefixScan_exhausted {addr : Bytes} {k : Nat} {r : PoolRange} (haf : r.af = .inet6)
    (hlen : addr.length = 16) (h : prefixScan leases addr k r = .exhausted) {q : Bytes}
    (hq : q.length = 8) (hle : value (r.start.take 8) ≤ value q)
    (hin : memLe (q ++ addr.drop 8) r.stop = true) :
    addrpoolCheck leases k (q ++ addr.drop 8) = true := by
  obtain ⟨n, hout, hall⟩ := Search.scan_exhausted h
  have hlen8 := r.take_length haf
  have hltq := value_lt q
  rw [hq] at hltq
  have hnth : prefixNext^[value q - value (r.start.take 8)] (r.start.take 8 ++ addr.drop 8)
      = q ++ addr.drop 8 := by
    rw [prefixNext_iterate hlen8, incr_iterate_eq (by rw [hlen8, hq]) hle]
  rw [← hnth]
  refine (hall _ ?_).2
  -- a candidate at or below one that is in the range is in the range
  by_contra hge
  rw [prefixNext_iterate hlen8] at hout
  have hvn : value (incr^[n] (r.start.take 8)) = value (r.start.take 8) + n := by
    rw [value_incr_iterate, hlen8, Nat.mod_eq_of_lt (by omega)]
  have hdrop : (addr.drop 8).length = 8 := by rw [List.length_drop, hlen]
  have hl1 : (incr^[n] (r.start.take 8) ++ addr.drop 8).length = r.stop.length := by
    rw [List.length_append, incr_iterate_length, hlen8, hdrop, r.stop_length, haf]
    rfl
  have hl2 : (q ++ addr.drop 8).length = r.stop.length := by
    rw [List.length_append, hq, hdrop, r.stop_length, haf]
    rfl
  rw [memLe_iff _ _ hl2] at hin
  rw [Bool.eq_false_iff, Ne, memLe_iff _ _ hl1] at hout
  apply hout
  refine Nat.le_trans ?_ hin
  rw [value_append, value_append, hvn]
  exact Nat.add_le_add_right (Nat.mul_le_mul_right _ (by omega)) _

theorem prefixScan_forever {addr : Bytes} {k : Nat} {r : PoolRange} (haf : r.af = .inet6)
    (h : prefixScan leases addr k r = .forever) {q : Bytes} (hq : q.length = 8) :
    memLe (q ++ addr.drop 8) r.stop = true ∧ addrpoolCheck leases k (q ++ addr.drop 8) = true := by
  have hlen := r.take_length haf
  have hlt := value_lt (r.start.take 8)
  have hltq := value_lt q
  rw [hlen] at hlt
  rw [hq] at hltq
  -- every prefix comes up in one round
  have hnth : prefixNext^[256 ^ 8 - value (r.start.take 8) + value q]
      (r.start.take 8 ++ addr.drop 8) = q ++ addr.drop 8 := by
    rw [prefixNext_iterate hlen]
    congr 1
    apply value_inj
    · rw [incr_iterate_length, hlen, hq]
    · rw [value_incr_iterate, hlen]
      have hsum : value (r.start.take 8) + (256 ^ 8 - value (r.start.take 8) + value q)
          = value q + 256 ^ 8 := by omega
      rw [hsum, Nat.add_mod_right, Nat.mod_eq_of_lt hltq]
  rw [← hnth]
  refine Search.scan_forever h _ ?_
  have h8 : 256 ^ 8 + 256 ^ 8 ≤ 256 ^ 16 := by norm_num
  omega

theorem addr_split {addr : Bytes} (hlen : addr.length = 16) :
    (addr.take 8).length = 8 ∧ addr.take 8 ++ addr.drop 8 = addr := by
  refine ⟨?_, List.take_append_drop 8 addr⟩
  rw [List.length_take, hlen]
  rfl

/-- an address with an interface identifier is refused when no address with it is left -/
theorem addrpoolAssignIp6intf_refused {addr : Bytes} (hlen : addr.length = 16)
    {ranges : List PoolRange} (h : addrpoolAssignIp6intf leases addr ranges = .refused) {k : Nat}
    {r : PoolRange} (hk : ranges[k]? = some r) (haf : r.af = .inet6) {q : Bytes}
    (hq : q.length = 8) (hhas : r.Has (q ++ addr.drop 8)) :
    addrpoolCheck leases k (q ++ addr.drop 8) = true := by
  rcases rangesFrom_spec (askPrefix leases addr) ranges 0 with ⟨_, hnone⟩ | ⟨j, r', _, hask, _⟩
  · have hask := hnone k r hk
    rw [Nat.zero_add] at hask
    unfold askPrefix at hask
    rw [if_neg (by rw [haf]; simp)] at hask
    cases hscan : prefixScan leases addr k r with
    | found a => rw [hscan] at hask; cases hask
    | forever => rw [hscan] at hask; cases hask
    | exhausted =>
      refine prefixScan_exhausted haf hlen hscan hq ?_ hhas.2
      -- a number not below the start has a prefix not below that of the start
      have hdrop : (addr.drop 8).length = 8 := by rw [List.length_drop, hlen]
      have hsplit : value r.start
          = value (r.start.take 8) * 256 ^ 8 + value (r.start.drop 8) := by
        have hd : (r.start.drop 8).length = 8 := by
          rw [List.length_drop, r.start_length, haf]
          rfl
        have happ := value_append (r.start.take 8) (r.start.drop 8)
        rwa [List.take_append_drop, hd] at happ
      have hle := (r.has_iff (by
        rw [List.length_append, hq, hdrop, haf]
        rfl)).mp hhas
      have hlt := value_lt (addr.drop 8)
      rw [value_append, hdrop] at hle
      rw [hdrop] at hlt
      omega
  · have hres : rangesFrom (askPrefix leases addr) 0 ranges = .refused := h
    rw [hres] at hask
    unfold askPrefix at hask
    split at hask
    · cases hask
    · split at hask <;> cases hask

/-- the answers for an address that is free, or where no prefix is left -/
theorem addrpoolAssignIp6intf_spec {addr : Bytes} (hlen : addr.length = 16)
    {ranges : List PoolRange}
    (hok : (∀ k, addrpoolCheck leases k addr = false) ∨ noPrefixLeft leases addr ranges) :
    addrpoolAssignIp6intf leases addr ranges = .refused ∨
    ∃ k r, addrpoolAssignIp6intf leases addr ranges = .lease k addr ∧ ranges[k]? = some r
      ∧ r.af = .inet6 ∧ ¬ noPrefixLeft leases addr ranges := by
  rcases rangesFrom_spec (askPrefix leases addr) ranges 0 with ⟨hres, _⟩ | ⟨k, r, hk, hask, _⟩
  · exact Or.inl hres
  · refine Or.inr ?_
    rw [Nat.zero_add] at hask
    show ∃ k r, rangesFrom (askPrefix leases addr) 0 ranges = .lease k addr ∧ _
    generalize rangesFrom (askPrefix leases addr) 0 ranges = ans at hask ⊢
    unfold askPrefix at hask
    split at hask
    · cases hask
    · rename_i haf
      have haf : r.af = .inet6 := not_not.mp haf
      cases hscan : prefixScan leases addr k r with
      | exhausted => rw [hscan] at hask; cases hask
      | found b =>
        rw [hscan] at hask
        cases hask
        refine ⟨k, r, rfl, hk, haf, fun hno => ?_⟩
        obtain ⟨hend, hall⟩ := hno k r hk haf
        rcases prefixScan_found haf hscan with hones | ⟨q, hq, hle, hin, hfree⟩
        · rw [hones] at hend
          cases hend
        · rw [hall q hq hle hin] at hfree
          cases hfree
      | forever =>
        rcases hok with hfree | hno
        · obtain ⟨hq, happ⟩ := addr_split hlen
          have hused := (prefixScan_forever haf hscan hq).2
          rw [happ, hfree k] at hused
          cases hused
        · have hones := (prefixScan_forever haf hscan (q := List.replicate 8 255)
            List.length_replicate).1
          rw [(hno k r hk haf).1] at hones
          cases hones

end

/-! ## the leases of a pool -/

/-- the records on the lists of the ranges -/
structure LeasesSound (ranges : List PoolRange) (leases : List Lease) (next : Nat) : Prop where
  distinct : (leases.map Lease.key).Nodup
  length : ∀ a ∈ leases, a.address.length = a.af.size
  within : ∀ a ∈ leases, ∃ r ∈ ranges, r.af = a.af ∧ r.Has a.address
  /-- the list a record is on is that of a range of its family -/
  filed : ∀ a ∈ leases, ∃ r, ranges[a.poolHead]? = some r ∧ r.af = a.af
  refs : (leases.map Lease.ref).Nodup
  fresh : ∀ a ∈ leases, a.ref < next

structure AddrPool.Sound (p : AddrPool) : Prop where
  leases : LeasesSound p.ranges p.leases p.next
  returned : p.looping = false

section
variable {ranges : List PoolRange} {leases : List Lease} {next : Nat}

theorem mem_of_check {k : Nat} {addr : Bytes} (h : addrpoolCheck leases k addr = true) :
    ∃ a ∈ leases, a.poolHead = k ∧ a.address = addr := by
  obtain ⟨a, ha, hkey⟩ := List.any_eq_true.mp h
  rw [Bool.and_eq_true, beq_iff_eq, beq_iff_eq] at hkey
  exact ⟨a, ha, hkey⟩

/-- an address on the list of a range of its family is leased -/
theorem LeasesSound.leased (h : LeasesSound ranges leases next) {k : Nat} {r : PoolRange}
    {addr : Bytes} (hk : ranges[k]? = some r) (hcheck : addrpoolCheck leases k addr = true) :
    Leased leases r.af addr := by
  obtain ⟨a, ha, hhead, haddr⟩ := mem_of_check hcheck
  obtain ⟨r', hr', haf⟩ := h.filed a ha
  rw [hhead, hk] at hr'
  cases hr'
  exact ⟨a, ha, haf.symm, haddr⟩

theorem LeasesSound.cons (h : LeasesSound ranges leases next) {a : Lease}
    (hnew : ¬ Leased leases a.af a.address) (hlen : a.address.length = a.af.size)
    (hwithin : ∃ r ∈ ranges, r.af = a.af ∧ r.Has a.address)
    (hfiled : ∃ r, ranges[a.poolHead]? = some r ∧ r.af = a.af) (href : a.ref = next) :
    LeasesSound ranges (a :: leases) (next + 1) := by
  constructor
  · rw [List.map_cons, List.nodup_cons]
    refine ⟨fun hmem => ?_, h.distinct⟩
    obtain ⟨b, hb, hkey⟩ := List.mem_map.mp hmem
    exact hnew ⟨b, hb, congrArg Prod.fst hkey, congrArg Prod.snd hkey⟩
  · exact List.forall_mem_cons.mpr ⟨hlen, h.length⟩
  · exact List.forall_mem_cons.mpr ⟨hwithin, h.within⟩
  · exact List.forall_mem_cons.mpr ⟨hfiled, h.filed⟩
  · rw [List.map_cons, List.nodup_cons]
    refine ⟨fun hmem => ?_, h.refs⟩
    obtain ⟨b, hb, hbref⟩ := List.mem_map.mp hmem
    have := h.fresh b hb
    omega
  · refine List.forall_mem_cons.mpr ⟨by omega, fun b hb => ?_⟩
    have := h.fresh b hb
    omega

theorem LeasesSound.filter (h : LeasesSound ranges leases next) (keep : Lease → Bool) :
    LeasesSound ranges (leases.filter keep) next := by
  have hsub := List.filter_sublist (p := keep) (l := leases)
  exact ⟨h.distinct.sublist (hsub.map _), fun a ha => h.length a (hsub.subset ha),
    fun a ha => h.within a (hsub.subset ha), fun a ha => h.filed a (hsub.subset ha),
    h.refs.sublist (hsub.map _), fun a ha => h.fresh a (hsub.subset ha)⟩

/-- a record is copied to a new one on the same list and released -/
theorem LeasesSound.copy (h : LeasesSound ranges leases next) {a : Lease} (ha : a ∈ leases) :
    LeasesSound ranges (({ a with ref := next } :: leases).filter fun b => b.ref != a.ref)
      (next + 1) := by
  have hfresh := h.fresh a ha
  rw [List.filter_cons_of_pos (by simp; omega)]
  refine (h.filter _).cons ?_ (h.length a ha) (h.within a ha) (h.filed a ha) rfl
  rintro ⟨b, hb, haf, haddr⟩
  rw [List.mem_filter] at hb
  have hsame : b = a :=
    List.inj_on_of_nodup_map h.distinct hb.1 ha (Prod.ext haf haddr)
  rw [hsame] at hb
  simp at hb

theorem moveLoop_sound (rs : List Nat) : ∀ (mem : List Bool) (leases : List Lease) (next : Nat)
    (dest : List Nat), LeasesSound ranges leases next →
      LeasesSound ranges (moveLoop mem rs leases next dest).1
        (moveLoop mem rs leases next dest).2.1 := by
  induction rs with
  | nil => exact fun mem leases next dest h => h
  | cons r rs ih =>
    intro mem leases next dest h
    unfold moveLoop
    cases hfind : leases.find? (fun a => a.ref == r) with
    | none => exact ih _ _ _ _ h
    | some a =>
      have hr : a.ref = r := by
        have := List.find?_some hfind
        simpa using this
      dsimp only
      split
      · apply ih
        rw [← hr]
        exact h.copy (List.mem_of_find?_eq_some hfind)
      · apply ih
        exact h.filter _

end

section
variable {p : AddrPool}

theorem AddrPool.Sound.give (h : p.Sound) (child : Nat) (mem : Bool) {af : Family}
    {ans : PoolAnswer}
    (hans : ans = .refused ∨ ∃ k r addr, ans = .lease k addr ∧ p.ranges[k]? = some r ∧ r.af = af
      ∧ addr.length = af.size ∧ p.Within af addr ∧ ¬ Leased p.leases af addr) :
    (p.give child mem af ans).Sound := by
  rcases hans with rfl | ⟨k, r, addr, rfl, hk, haf, hlen, hwithin, hfree⟩
  · exact h
  · show AddrPool.Sound (if mem then _ else p)
    split
    · exact ⟨h.leases.cons hfree hlen hwithin ⟨r, hk, haf⟩ rfl, h.returned⟩
    · exact h

theorem AddrPool.Sound.release (h : p.Sound) (r : Nat) : (p.release r).Sound :=
  ⟨h.leases.filter _, h.returned⟩

theorem AddrPool.Sound.releaseAll (rs : List Nat) : ∀ p : AddrPool, p.Sound →
    (rs.foldl AddrPool.release p).Sound := by
  induction rs with
  | nil => exact fun p h => h
  | cons r rs ih => exact fun p h => ih _ (h.release r)

theorem AddrPool.within_of_has {k : Nat} {r : PoolRange} {addr : Bytes}
    (hk : p.ranges[k]? = some r) (hhas : r.Has addr) : p.Within r.af addr :=
  ⟨r, List.mem_of_getElem? hk, rfl, hhas⟩

/-- an address of a free list is not on the list of any range -/
theorem not_check_of_free {leases : List Lease} {addr : Bytes} (hlen : addr.length = 16)
    (hs : ∀ a ∈ leases, a.address.length = a.af.size) (hfree : ¬ Leased leases .inet6 addr) (k : Nat) :
    addrpoolCheck leases k addr = false := by
  by_contra hcheck
  obtain ⟨a, ha, _, haddr⟩ := mem_of_check (by simpa using hcheck)
  apply hfree
  refine ⟨a, ha, ?_, haddr⟩
  have := hs a ha
  rw [haddr, hlen] at this
  cases haf : a.af with
  | inet =>
    rw [haf] at this
    exact absurd this (by decide)
  | inet6 => rfl

theorem poolStep_sound (call : PoolCall) (h : p.Sound) (hok : callOk p call) :
    (poolStep p call).Sound := by
  unfold poolStep
  rw [if_neg (by rw [h.returned]; simp)]
  cases call with
  | allocAny child af mem =>
    apply h.give
    rcases addrpoolAllocAny_spec hok with hres | ⟨k, r, addr, hans, hk, haf, hlen, hhas, hfree⟩
    · exact Or.inl hres
    · exact Or.inr ⟨k, r, addr, hans, hk, haf, hlen, haf ▸ p.within_of_has hk hhas, hfree⟩
  | assign child addr mem =>
    apply h.give
    rcases addrpoolAssign_spec addr p.ranges with ⟨hres, _⟩ | ⟨k, r, hans, hk, haf, hhas, hfree⟩
    · exact Or.inl hres
    · refine Or.inr ⟨k, r, addr.octets, hans, hk, haf, addr.octets_length,
        haf ▸ p.within_of_has hk hhas, fun hleased => ?_⟩
      rw [hok hleased k r hk haf hhas] at hfree
      cases hfree
  | assignIp6intf child addr mem =>
    have hlen : addr.1.octets.length = 16 := by
      rw [addr.1.octets_length, addr.2]
      rfl
    apply h.give
    rcases hok with ⟨hwithin, hfree⟩ | hno
    · have hcheck := not_check_of_free hlen h.leases.length hfree
      rcases addrpoolAssignIp6intf_spec hlen (Or.inl hcheck) with hres | ⟨k, r, hans, hk, haf, _⟩
      · exact Or.inl hres
      · exact Or.inr ⟨k, r, addr.1.octets, hans, hk, haf, hlen, hwithin, hfree⟩
    · rcases addrpoolAssignIp6intf_spec hlen (Or.inr hno) with hres | ⟨_, _, _, _, _, hleft⟩
      · exact Or.inl hres
      · exact absurd hno hleft
  | move dest src mem => exact ⟨moveLoop_sound _ _ _ _ _ h.leases, h.returned⟩
  | release r => exact h.release r
  | releaseAll child => exact AddrPool.Sound.releaseAll _ _ h

theorem poolStep_ranges (p : AddrPool) (call : PoolCall) : (poolStep p call).ranges = p.ranges := by
  have hgive : ∀ child mem af ans, (p.give child mem af ans).ranges = p.ranges := by
    intro child mem af ans
    unfold AddrPool.give
    split
    · split <;> rfl
    · rfl
    · rfl
  have hall : ∀ (rs : List Nat) (p : AddrPool),
      (rs.foldl AddrPool.release p).ranges = p.ranges := by
    intro rs
    induction rs with
    | nil => exact fun p => rfl
    | cons r rs ih => exact fun p => ih (p.release r)
  unfold poolStep
  split
  · rfl
  · split
    · exact hgive _ _ _ _
    · exact hgive _ _ _ _
    · exact hgive _ _ _ _
    · rfl
    · rfl
    · exact hall _ _

end

/-- in every run of calls on a configured pool that leases no address twice nor outside of the
pool, the live leases are distinct, each lies within a range of its family, and a request is
refused only when nothing is left that could answer it -/
theorem pool_leases (entries : List PoolEntry) (ranges : List PoolRange)
    (hload : fixAddresspool entries [] = some ranges) (calls : List PoolCall)
    (hrun : Run.Meets poolStep callOk (AddrPool.start ranges) calls) :
    ∀ p ∈ Run.states poolStep (AddrPool.start ranges) calls,
      p.ranges = ranges
      ∧ (p.leases.map Lease.key).Nodup
      ∧ (∀ a ∈ p.leases, a.address.length = a.af.size ∧ p.Within a.af a.address)
      ∧ p.looping = false
      ∧ (∀ af, addrpoolAllocAny p.leases af p.ranges = .refused →
          ∀ addr : Bytes, addr.length = af.size → p.Within af addr → Leased p.leases af addr)
      ∧ (∀ addr, addrpoolAssign p.leases addr p.ranges = .refused →
          p.Within addr.af addr.octets → Leased p.leases addr.af addr.octets)
      ∧ ∀ addr : Bytes, addr.length = 16 →
          addrpoolAssignIp6intf p.leases addr p.ranges = .refused →
          ∀ q : Bytes, q.length = 8 → p.Within .inet6 (q ++ addr.drop 8) →
            Leased p.leases .inet6 (q ++ addr.drop 8) := by
  intro p hmem
  have hinit : (AddrPool.start ranges).Sound := by
    refine ⟨⟨List.nodup_nil, ?_, ?_, ?_, List.nodup_nil, ?_⟩, rfl⟩ <;>
      exact fun a ha => absurd ha List.not_mem_nil
  have hstep : ∀ p call, p.Sound ∧ p.ranges = ranges → callOk p call →
      (poolStep p call).Sound ∧ (poolStep p call).ranges = ranges :=
    fun p call h hok => ⟨poolStep_sound call h.1 hok, (poolStep_ranges p call).trans h.2⟩
  obtain ⟨hs, hranges⟩ := Run.states_inv hstep calls _ ⟨hinit, rfl⟩ hrun p hmem
  refine ⟨hranges, hs.leases.distinct, fun a ha => ⟨hs.leases.length a ha, hs.leases.within a ha⟩,
    hs.returned, ?_, ?_, ?_⟩
  · intro af hres addr hlen hin
    obtain ⟨r, hr, haf, hhas⟩ := hin
    obtain ⟨k, hk⟩ := List.mem_iff_getElem?.mp hr
    rw [← haf]
    exact hs.leases.leased hk (addrpoolAllocAny_refused hres hk haf hlen hhas)
  · intro addr hres hin
    obtain ⟨r, hr, haf, hhas⟩ := hin
    obtain ⟨k, hk⟩ := List.mem_iff_getElem?.mp hr
    rcases addrpoolAssign_spec addr p.ranges with ⟨_, hall⟩ | ⟨_, _, hans, _⟩
    · rw [← haf]
      exact hs.leases.leased hk (hall k r hk haf hhas)
    · rw [hres] at hans
      cases hans
  · intro addr hlen hres q hq hin
    obtain ⟨r, hr, haf, hhas⟩ := hin
    obtain ⟨k, hk⟩ := List.mem_iff_getElem?.mp hr
    rw [← haf]
    exact hs.leases.leased hk (addrpoolAssignIp6intf_refused hlen hres hk haf hq hhas)

/-! ### pools -/

def ip4 (a b c d : UInt8) : IpAddr := ⟨.inet, [a, b, c, d], rfl⟩

/-- `fd00::n` -/
def ip6 (n : UInt8) : IpAddr := ⟨.inet6, 0xfd :: (List.replicate 14 0 ++ [n]), rfl⟩

/-- 10.0.0.0/30 and fd00::1 to fd00::9 -/
def smallPool : List PoolEntry := [.cidr (ip4 10 0 0 0) 30, .bounds (ip6 1) (ip6 9)]

def smallCalls : List PoolCall := [.allocAny 0 .inet true, .assign 1 (ip4 10 0 0 2) true,
  .assignIp6intf 1 ⟨ip6 5, rfl⟩ true, .move 2 0 [], .releaseAll 1, .allocAny 3 .inet true]

theorem pool_leases_small : ∃ ranges, fixAddresspool smallPool [] = some ranges
    ∧ ∃ p ∈ Run.states poolStep (AddrPool.start ranges) smallCalls,
      p.leases.length = 3 ∧ (p.leases.map Lease.key).Nodup := by
  obtain ⟨ranges, hload⟩ : ∃ ranges, fixAddresspool smallPool [] = some ranges := ⟨_, rfl⟩
  refine ⟨ranges, hload, ?_⟩
  have hranges : ranges = ((fixAddresspool smallPool []).getD []) := by rw [hload]; rfl
  have hreach : ∃ p ∈ Run.states poolStep (AddrPool.start ranges) smallCalls,
      p.leases.length = 3 := by
    rw [hranges]
    decide +kernel
  obtain ⟨p, hmem, hlen⟩ := hreach
  have hrun : Run.Meets poolStep callOk (AddrPool.start ranges) smallCalls := by
    rw [hranges]
    refine ⟨?_, fun h => absurd h (by decide +kernel), Or.inl (by decide +kernel), trivial, trivial,
      ?_, trivial⟩
    · show (_ : Bool) = true
      decide +kernel
    · show (_ : Bool) = true
      decide +kernel
  exact ⟨p, hmem, hlen, (pool_leases smallPool ranges hload smallCalls hrun p hmem).2.1⟩

/-- two ranges that overlap lease one address twice; a full range that ends at the last address
goes on at 0.0.0.0; an interface identifier leases an address outside of the pool -/
theorem pool_leases_twice :
    (∃ ranges, fixAddresspool [.bounds (ip4 10 0 0 1) (ip4 10 0 0 2),
          .bounds (ip4 10 0 0 2) (ip4 10 0 0 3)] [] = some ranges ∧
      ∃ p ∈ Run.states poolStep (AddrPool.start ranges)
          [.assign 0 (ip4 10 0 0 2) true, .assign 1 (ip4 10 0 0 2) true],
        ¬ (p.leases.map Lease.key).Nodup)
    ∧ (∃ ranges, fixAddresspool [.bounds (ip4 255 255 255 255) (ip4 255 255 255 255)] []
          = some ranges ∧
      ∃ p ∈ Run.states poolStep (AddrPool.start ranges)
          [.allocAny 0 .inet true, .allocAny 1 .inet true],
        ∃ a ∈ p.leases, a.address = [0, 0, 0, 0] ∧ ¬ p.Within a.af a.address)
    ∧ ∃ ranges, fixAddresspool [.bounds (ip6 1) (ip6 9)] [] = some ranges ∧
      ∃ p ∈ Run.states poolStep (AddrPool.start ranges)
          [.assignIp6intf 0 ⟨⟨.inet6, List.replicate 16 0, rfl⟩, rfl⟩ true],
        ∃ a ∈ p.leases, ¬ p.Within a.af a.address := by
  refine ⟨⟨_, rfl, by decide +kernel⟩, ⟨_, rfl, by decide +kernel⟩, _, rfl, by decide +kernel⟩

end Ikev2
