import Racoon2.Lib.Prefix
import Racoon2.Iked.Sa

/-!
# The responder's traffic selectors

`ts_contains_addr` and its neighbours, `ike_conf_find_ikev2sel_by_ts`, the substitution of
addresses behind a NAT, and how `ikev2_create_child_responder` makes TSi and TSr of the response
from them.

A selector is read as the set of packets it covers (`Ts.Covers`).

* `intersect_covers`        `ikev2_ts_intersect` is the intersection;
* `narrowToProposal_covered`   what `ikev2_ts_narrow_to_proposal` returns is covered by the proposal;
* `containsAddr_of_contains`   when the octet-wise test sees that a range contains a prefix;
* `responder_narrowing`     what the responder returns, and what it accepts.
-/

set_option linter.unusedVariables false

namespace Ikev2
open Bytes

/-! ## selectors -/

/-- `ikev2_ts_addr_size`, where the family is AF_INET for TS_IPV4_ADDR_RANGE and AF_INET6 for
TS_IPV6_ADDR_RANGE -/
def Family.size : Family → Nat
  | .inet => 4
  | .inet6 => 16

def tsProtoAny : Nat := 0
def rcProtoAny : Nat := 255

/-- a traffic selector that `ikev2_check_ts_payload` let through -/
structure Ts where
  family : Family
  protocol : Nat
  startPort : Nat
  endPort : Nat
  start : Bytes
  stop : Bytes
  start_length : start.length = family.size
  stop_length : stop.length = family.size
  deriving DecidableEq, Repr

/-- `struct sockaddr` -/
structure SockAddr where
  family : Family
  addr : Bytes
  port : Nat
  addr_length : addr.length = family.size
  deriving DecidableEq, Repr

/-- an address of the configuration with its prefix length -/
structure Net extends SockAddr where
  prefixlen : Nat
  prefixlen_le : prefixlen ≤ 8 * family.size
  deriving DecidableEq, Repr

/-- `ikev2_cfg_addr2sockaddr`: a leased address -/
def SockAddr.host (a : SockAddr) : Net :=
  ⟨{ a with port := 0 }, 8 * a.family.size, Nat.le_refl _⟩

structure Packet where
  family : Family
  address : Nat
  protocol : Nat
  port : Nat
  deriving DecidableEq, Repr

def Ts.Covers (ts : Ts) (packet : Packet) : Prop :=
  ts.family = packet.family
    ∧ value ts.start ≤ packet.address ∧ packet.address ≤ value ts.stop
    ∧ (ts.protocol = tsProtoAny ∨ ts.protocol = packet.protocol)
    ∧ ts.startPort ≤ packet.port ∧ packet.port ≤ ts.endPort

instance (ts : Ts) (packet : Packet) : Decidable (ts.Covers packet) := by
  unfold Ts.Covers
  infer_instance

/-! ## the tests of `ike_conf.c` -/

/-- `ts_is_specific` -/
def tsIsSpecific (ts : Ts) : Bool :=
  if ts.protocol = tsProtoAny then false
  else if ts.protocol = 6 ∨ ts.protocol = 17 ∨ ts.protocol = 1 ∨ ts.protocol = 58
      ∨ ts.protocol = 132 ∨ ts.protocol = 135 then
    ts.startPort == ts.endPort && ts.start == ts.stop
  else ts.startPort == 0 && ts.endPort == 65535 && ts.start == ts.stop

/-- the octets a prefix length reaches -/
def prefixOctets (prefixlen : Nat) : List Nat := List.range ((prefixlen + 7) / 8)

/-- `ts_is_within_addr` -/
def tsIsWithinAddr (ts : Ts) (proto : Nat) (net : Net) : Bool :=
  ts.family == net.family
    && (proto == tsProtoAny || ts.protocol == proto)
    && ((prefixOctets net.prefixlen).all fun i =>
      byteAt net.addr i &&& octetMask net.prefixlen i ≤ byteAt ts.start i
        && byteAt ts.stop i ≤ byteAt net.addr i ||| ~~~ octetMask net.prefixlen i)
    && (net.port == 0 || (ts.startPort == net.port && ts.endPort == net.port))

/-- `ts_contains_addr` -/
def tsContainsAddr (ts : Ts) (proto : Nat) (net : Net) : Bool :=
  ts.family == net.family
    && (ts.protocol == tsProtoAny || ts.protocol == proto)
    && ((prefixOctets net.prefixlen).all fun i =>
      byteAt ts.start i ≤ byteAt net.addr i &&& octetMask net.prefixlen i
        && byteAt net.addr i ||| ~~~ octetMask net.prefixlen i ≤ byteAt ts.stop i)
    && (ts.startPort ≤ net.port && net.port ≤ ts.endPort)

/-- `ts_is_matching` -/
def tsIsMatching (tss : List Ts) (proto : Nat) (net : Net) : Bool :=
  match tss with
  | [] => false
  | ts0 :: _ =>
    (!tsIsSpecific ts0 || tsIsWithinAddr ts0 proto net)
      && tss.any fun ts => tsContainsAddr ts proto net

/-- `ts_match`, and the selector `ts_add_return` appends -/
def tsMatch (proto : Nat) (net : Net) : Ts where
  family := net.family
  protocol := proto
  startPort := if net.port = 0 then 0 else net.port
  endPort := if net.port = 0 then 65535 else net.port
  start := prefixLow net.addr net.prefixlen
  stop := prefixHigh net.addr net.prefixlen
  start_length := (prefixLow_length _ _).trans net.addr_length
  stop_length := (prefixHigh_length _ _).trans net.addr_length

/-! ## the configured selectors -/

/-- `struct rcf_selector`; of an expanded address list only the first address is used -/
structure RcfSelector where
  autoIpsec : Bool
  rmIndex : Option Bytes
  outbound : Bool
  transport : Bool
  src : Option Net
  dst : Option Net
  protocol : Nat

structure TsRequest where
  /-- ENABLE_NATT -/
  natt : Bool
  selectors : List RcfSelector
  rmIndex : Option Bytes
  useTransport : Bool
  behindNat : Bool
  peerBehindNat : Bool
  /-- the addresses of the IKE SA -/
  localAddr : SockAddr
  remoteAddr : SockAddr
  /-- the addresses INTERNAL_IP4_ADDRESS and INTERNAL_IP6_ADDRESS were answered with -/
  leases : List SockAddr
  tsI : List Ts
  tsR : List Ts

def RcfSelector.proto (s : RcfSelector) : Nat :=
  if s.protocol = rcProtoAny then tsProtoAny else s.protocol

section
variable (r : TsRequest)

/-- the checks of `ike_conf_find_ikev2sel_by_ts` before the addresses -/
def RcfSelector.applies (s : RcfSelector) : Bool :=
  s.autoIpsec && s.rmIndex == r.rmIndex && s.outbound && (!s.transport || r.useTransport)

/-- one round of the loop of `ike_conf_find_ikev2sel_by_ts`: TSi and TSr of the response -/
def RcfSelector.find (tsI tsR : List Ts) (af : Family) (s : RcfSelector) : Option (Ts × Ts) :=
  if !s.applies r then none
  else match s.src, s.dst with
    | some src, some dst =>
      if src.family ≠ af then none
      else if tsIsMatching tsR s.proto src && r.leases.isEmpty && tsIsMatching tsI s.proto dst then
        some (tsMatch s.proto dst, tsMatch s.proto src)
      else if tsIsMatching tsR s.proto src && !r.leases.isEmpty then
        match r.leases.find? fun a => a.family == af && tsIsMatching tsI s.proto a.host with
        | none => none
        | some a => some (tsMatch s.proto a.host, tsMatch s.proto src)
      else none
    | _, _ => none

/-- `ike_conf_find_ikev2sel_by_ts` -/
def findIkev2selByTs (tsI tsR : List Ts) (af : Family) : Option (Ts × Ts) :=
  r.selectors.findSome? (RcfSelector.find r tsI tsR af)

/-- the lookups for AF_INET and AF_INET6; both append to TSi and TSr -/
def findBoth (tsI tsR : List Ts) : List (Ts × Ts) :=
  (findIkev2selByTs r tsI tsR .inet).toList ++ (findIkev2selByTs r tsI tsR .inet6).toList

/-! ## NAT traversal -/

/-- `ikev2_ts_substitute_ex` without `allow_range` -/
def tsSubstitute (sub : SockAddr) (ts : Ts) : Option Ts :=
  if h : ts.family = sub.family then
    if ts.start = sub.addr then some ts
    else if ts.start ≠ ts.stop then none
    else some { ts with
      start := sub.addr, stop := sub.addr
      start_length := by rw [h]; exact sub.addr_length
      stop_length := by rw [h]; exact sub.addr_length }
  else some ts

/-- `ikev2_ts_payload_substitute` -/
def tsPayloadSubstitute (sub : SockAddr) (tss : List Ts) : Option (List Ts) :=
  if tss = [] then none else tss.mapM (tsSubstitute sub)

/-- `ikev2_addr_substitute` of the responder -/
def addrSubstitute : Option (List Ts × List Ts) :=
  match (if r.peerBehindNat then tsPayloadSubstitute r.remoteAddr r.tsI else some r.tsI) with
  | none => none
  | some tsI =>
    match (if r.behindNat then tsPayloadSubstitute r.localAddr r.tsR else some r.tsR) with
    | none => none
    | some tsR => some (tsI, tsR)

def TsRequest.doesSubst : Bool :=
  r.natt && r.useTransport && (r.behindNat || r.peerBehindNat)

/-- the proposal of the first lookup -/
def TsRequest.seen : Option (List Ts × List Ts) :=
  if r.doesSubst then addrSubstitute r else some (r.tsI, r.tsR)

/-- `ikev2_ts_intersect` -/
def tsIntersect (p q : Ts) : Option Ts :=
  if h : p.family = q.family then
    if ¬ (p.protocol = tsProtoAny ∨ q.protocol = tsProtoAny ∨ q.protocol = p.protocol) then none
    else if min p.endPort q.endPort < max p.startPort q.startPort then none
    else
      let start := if memLe q.start p.start then p.start else q.start
      let stop := if memLe p.stop q.stop then p.stop else q.stop
      if !memLe start stop then none
      else some {
        family := p.family
        protocol := if p.protocol = tsProtoAny then q.protocol else p.protocol
        startPort := max p.startPort q.startPort
        endPort := min p.endPort q.endPort
        start := start
        stop := stop
        start_length := by
          show (if memLe q.start p.start then p.start else q.start).length = p.family.size
          split
          · exact p.start_length
          · rw [h]; exact q.start_length
        stop_length := by
          show (if memLe p.stop q.stop then p.stop else q.stop).length = p.family.size
          split
          · exact p.stop_length
          · rw [h]; exact q.stop_length }
  else none

/-- `ikev2_ts_narrow_to_proposal`; the payload counts its selectors in one octet -/
def tsNarrowToProposal (proposed selresp : List Ts) : Option (List Ts) :=
  match (proposed.flatMap fun p => selresp.filterMap (tsIntersect p)).take
      (min (proposed.length * selresp.length) 255) with
  | [] => none
  | tss => some tss

/-- TSi and TSr of the response; `none`: TS_UNACCEPTABLE -/
def responderTs : Option (List Ts × List Ts) :=
  match r.seen with
  | none => none
  | some (tsI, tsR) =>
    match findBoth r tsI tsR with
    | [] =>
      -- the fallback to tunnel mode looks for the original selectors
      if r.doesSubst then
        match findBoth r r.tsI r.tsR with
        | [] => none
        | found => some (found.map Prod.fst, found.map Prod.snd)
      else none
    | found =>
      if r.natt then
        match tsNarrowToProposal tsI (found.map Prod.fst),
            tsNarrowToProposal tsR (found.map Prod.snd) with
        | some tsI, some tsR => some (tsI, tsR)
        | _, _ => none
      else some (found.map Prod.fst, found.map Prod.snd)

end

/-! ## intersections -/

theorem memLe_max {a b : Bytes} (h : a.length = b.length) :
    value (if memLe b a then a else b) = max (value a) (value b) := by
  split
  · rename_i hle
    rw [memLe_iff b a h.symm] at hle
    omega
  · rename_i hle
    have := memLe_total b a h.symm hle
    omega

theorem memLe_min {a b : Bytes} (h : a.length = b.length) :
    value (if memLe a b then a else b) = min (value a) (value b) := by
  split
  · rename_i hle
    rw [memLe_iff a b h] at hle
    omega
  · rename_i hle
    have := memLe_total a b h hle
    omega

/-- the two selectors may be for the same protocol -/
def ProtoMeet (p q : Ts) : Prop :=
  p.protocol = tsProtoAny ∨ q.protocol = tsProtoAny ∨ q.protocol = p.protocol

theorem tsIntersect_cases (p q : Ts) : (∃ o, tsIntersect p q = some o
      ∧ o.family = p.family ∧ p.family = q.family ∧ ProtoMeet p q
      ∧ o.protocol = (if p.protocol = tsProtoAny then q.protocol else p.protocol)
      ∧ o.startPort = max p.startPort q.startPort ∧ o.endPort = min p.endPort q.endPort
      ∧ value o.start = max (value p.start) (value q.start)
      ∧ value o.stop = min (value p.stop) (value q.stop))
    ∨ (tsIntersect p q = none ∧ ¬ (p.family = q.family ∧ ProtoMeet p q
      ∧ max p.startPort q.startPort ≤ min p.endPort q.endPort
      ∧ max (value p.start) (value q.start) ≤ min (value p.stop) (value q.stop))) := by
  unfold tsIntersect
  split
  · rename_i hf
    have hstart : p.start.length = q.start.length := by
      rw [p.start_length, q.start_length, hf]
    have hstop : p.stop.length = q.stop.length := by
      rw [p.stop_length, q.stop_length, hf]
    split
    · rename_i hp
      exact Or.inr ⟨rfl, fun h => hp h.2.1⟩
    · rename_i hp
      have hp' : ProtoMeet p q := not_not.mp hp
      split
      · rename_i hport
        exact Or.inr ⟨rfl, fun h => by omega⟩
      · dsimp only
        have hlens : (if memLe q.start p.start then p.start else q.start).length
            = (if memLe p.stop q.stop then p.stop else q.stop).length := by
          have h1 := p.start_length
          have h2 := p.stop_length
          split <;> split <;> omega
        by_cases hle : memLe (if memLe q.start p.start then p.start else q.start)
            (if memLe p.stop q.stop then p.stop else q.stop) = true
        · refine Or.inl ⟨_, if_neg (by rw [hle]; simp), rfl, hf, hp', rfl, rfl, rfl, ?_, ?_⟩
          · exact memLe_max hstart
          · exact memLe_min hstop
        · refine Or.inr ⟨if_pos (by simpa using hle), fun h => ?_⟩
          rw [memLe_iff _ _ hlens, memLe_max hstart, memLe_min hstop] at hle
          exact hle h.2.2.2
  · rename_i hf
    exact Or.inr ⟨rfl, fun h => hf h.1⟩

/-- `ikev2_ts_intersect` is the intersection -/
theorem tsIntersect_covers {p q o : Ts} (h : tsIntersect p q = some o) (packet : Packet) :
    o.Covers packet ↔ p.Covers packet ∧ q.Covers packet := by
  rcases tsIntersect_cases p q with ⟨o', ho, hf, hpq, hmeet, hproto, hsp, hep, hstart, hstop⟩
    | ⟨hnone, _⟩
  · have he : o' = o := Option.some.inj (ho.symm.trans h)
    subst he
    unfold Ts.Covers
    unfold ProtoMeet at hmeet
    rw [hf, hsp, hep, hstart, hstop, hproto, ← hpq]
    constructor
    · rintro ⟨h1, h2, h3, h4, h5, h6⟩
      split at h4
      · exact ⟨⟨h1, by omega, by omega, by omega, by omega, by omega⟩,
          ⟨h1, by omega, by omega, by omega, by omega, by omega⟩⟩
      · exact ⟨⟨h1, by omega, by omega, by omega, by omega, by omega⟩,
          ⟨h1, by omega, by omega, by omega, by omega, by omega⟩⟩
    · rintro ⟨⟨h1, h2, h3, h4, h5, h6⟩, ⟨_, g2, g3, g4, g5, g6⟩⟩
      refine ⟨h1, by omega, by omega, ?_, by omega, by omega⟩
      split
      · exact g4
      · exact h4
  · exact absurd (hnone.symm.trans h) (by simp)

/-! ## narrowing -/

/-- every packet of `tss` is a packet of `proposed` -/
def CoveredBy (tss proposed : List Ts) : Prop :=
  ∀ t ∈ tss, ∀ packet, t.Covers packet → ∃ p ∈ proposed, p.Covers packet

theorem tsNarrowToProposal_some {proposed selresp tss : List Ts}
    (h : tsNarrowToProposal proposed selresp = some tss) :
    ∀ t ∈ tss, ∃ p ∈ proposed, ∃ q ∈ selresp, tsIntersect p q = some t := by
  unfold tsNarrowToProposal at h
  split at h
  · exact absurd h (by simp)
  · rename_i l hl
    rw [← Option.some.inj h]
    intro t ht
    have hmem := List.mem_of_mem_take ht
    obtain ⟨p, hp, hmem⟩ := List.mem_flatMap.mp hmem
    obtain ⟨q, hq, ho⟩ := List.mem_filterMap.mp hmem
    exact ⟨p, hp, q, hq, ho⟩

theorem tsNarrowToProposal_covered {proposed selresp tss : List Ts}
    (h : tsNarrowToProposal proposed selresp = some tss) : CoveredBy tss proposed := by
  intro t ht packet hc
  obtain ⟨p, hp, q, _, ho⟩ := tsNarrowToProposal_some h t ht
  exact ⟨p, hp, ((tsIntersect_covers ho packet).mp hc).1⟩

/-- one pair that meets is enough -/
theorem tsNarrowToProposal_isSome {proposed selresp : List Ts} {p q o : Ts} (hp : p ∈ proposed)
    (hq : q ∈ selresp) (ho : tsIntersect p q = some o) :
    (tsNarrowToProposal proposed selresp).isSome := by
  have hmem : o ∈ proposed.flatMap fun p => selresp.filterMap (tsIntersect p) :=
    List.mem_flatMap.mpr ⟨p, hp, List.mem_filterMap.mpr ⟨q, hq, ho⟩⟩
  have hcap : 0 < min (proposed.length * selresp.length) 255 := by
    have h1 := List.length_pos_of_mem hp
    have h2 := List.length_pos_of_mem hq
    have := Nat.mul_pos h1 h2
    omega
  unfold tsNarrowToProposal
  split
  · rename_i hnil
    rcases List.take_eq_nil_iff.mp hnil with h | h
    · omega
    · rw [h] at hmem
      exact absurd hmem List.not_mem_nil
  · rfl

/-! ## ranges and prefixes -/

/-- the range has every packet of the prefix, the protocol and the port -/
def Contains (ts : Ts) (proto : Nat) (net : Net) : Prop :=
  ∀ packet, (tsMatch proto net).Covers packet → ts.Covers packet

/-- the octets that the prefix length reaches are between those of the range -/
def OctetBounds (ts : Ts) (net : Net) : Prop :=
  ∀ i < (net.prefixlen + 7) / 8,
    byteAt ts.start i ≤ byteAt (prefixLow net.addr net.prefixlen) i
      ∧ byteAt (prefixHigh net.addr net.prefixlen) i ≤ byteAt ts.stop i

section
variable {ts : Ts} {proto : Nat} {net : Net}

theorem octet_lt {i : Nat} (hi : i < (net.prefixlen + 7) / 8) : i < net.addr.length := by
  have h1 := net.prefixlen_le
  have h2 := net.addr_length
  omega

theorem low_le_high :
    value (prefixLow net.addr net.prefixlen) ≤ value (prefixHigh net.addr net.prefixlen) := by
  refine value_le_value _ _ ?_ fun i hi => ?_
  · rw [prefixLow_length, prefixHigh_length]
  · rw [prefixLow_length] at hi
    exact UInt8.le_trans (prefixLow_le _ _ i hi) (le_prefixHigh _ _ i hi)

theorem tsContainsAddr_iff : tsContainsAddr ts proto net = true
    ↔ ts.family = net.family ∧ (ts.protocol = tsProtoAny ∨ ts.protocol = proto)
      ∧ OctetBounds ts net ∧ ts.startPort ≤ net.port ∧ net.port ≤ ts.endPort := by
  have hoctets : ((prefixOctets net.prefixlen).all fun i =>
      byteAt ts.start i ≤ byteAt net.addr i &&& octetMask net.prefixlen i
        && byteAt net.addr i ||| ~~~ octetMask net.prefixlen i ≤ byteAt ts.stop i) = true
      ↔ OctetBounds ts net := by
    unfold prefixOctets OctetBounds
    rw [List.all_eq_true]
    refine ⟨fun h i hi => ?_, fun h i hi => ?_⟩
    · have hi' := h i (List.mem_range.mpr hi)
      rw [byteAt_prefixLow _ _ i (octet_lt hi), byteAt_prefixHigh _ _ i (octet_lt hi)]
      simpa using hi'
    · have hi' := h i (List.mem_range.mp hi)
      rw [byteAt_prefixLow _ _ i (octet_lt (List.mem_range.mp hi)),
        byteAt_prefixHigh _ _ i (octet_lt (List.mem_range.mp hi))] at hi'
      simpa using hi'
  unfold tsContainsAddr
  rw [Bool.and_eq_true, Bool.and_eq_true, Bool.and_eq_true, hoctets]
  simp [and_assoc]

/-- the test passes for a range that contains the prefix, if it does so octet by octet -/
theorem tsContainsAddr_of_contains (h : Contains ts proto net) (ho : OctetBounds ts net) :
    tsContainsAddr ts proto net = true := by
  -- the first address of the prefix, with its port, in a protocol of our choice
  have hprobe (n : Nat) (hn : proto = tsProtoAny ∨ proto = n) :
      ts.Covers ⟨net.family, value (prefixLow net.addr net.prefixlen), n, net.port⟩ := by
    apply h
    refine ⟨rfl, Nat.le_refl _, low_le_high, hn, ?_, ?_⟩
    · show (if net.port = 0 then 0 else net.port) ≤ net.port
      split <;> omega
    · show net.port ≤ if net.port = 0 then 65535 else net.port
      split <;> omega
  rw [tsContainsAddr_iff]
  have hproto : ts.protocol = tsProtoAny ∨ ts.protocol = proto := by
    by_cases hany : proto = tsProtoAny
    · have hc := (hprobe (ts.protocol + 1) (Or.inl hany)).2.2.2.1
      rcases hc with hc | hc
      · exact Or.inl hc
      · exact absurd hc (by simp)
    · exact (hprobe proto (Or.inr rfl)).2.2.2.1
  obtain ⟨hf, _, _, _, hsp, hep⟩ := hprobe proto (Or.inr rfl)
  exact ⟨hf, hproto, ho, hsp, hep⟩

theorem tsIsSpecific_ports (h : tsIsSpecific ts = true) :
    ts.protocol ≠ tsProtoAny ∧ ts.start = ts.stop ∧ ts.startPort ≤ ts.endPort := by
  unfold tsIsSpecific at h
  split at h
  · exact absurd h (by simp)
  · rename_i hany
    split at h
    · simp only [Bool.and_eq_true, beq_iff_eq] at h
      exact ⟨hany, h.2, by omega⟩
    · simp only [Bool.and_eq_true, beq_iff_eq] at h
      exact ⟨hany, h.2, by omega⟩

/-- a specific selector whose packets are all of the policy is within it -/
theorem tsIsWithinAddr_of_covered (hs : tsIsSpecific ts = true)
    (h : ∀ packet, ts.Covers packet → (tsMatch proto net).Covers packet) :
    tsIsWithinAddr ts proto net = true := by
  obtain ⟨hany, hone, hports⟩ := tsIsSpecific_ports hs
  have hprobe (port : Nat) (h1 : ts.startPort ≤ port) (h2 : port ≤ ts.endPort) :
      (tsMatch proto net).Covers ⟨ts.family, value ts.start, ts.protocol, port⟩ :=
    h _ ⟨rfl, Nat.le_refl _, by rw [hone], Or.inr rfl, h1, h2⟩
  obtain ⟨hf, hlo, hhi, hproto, hsp, hsp'⟩ := hprobe ts.startPort (Nat.le_refl _) hports
  obtain ⟨_, _, _, _, hep, hep'⟩ := hprobe ts.endPort hports (Nat.le_refl _)
  have hf' : net.family = ts.family := hf
  have hlen : ts.start.length = net.addr.length := by
    rw [ts.start_length, net.addr_length, hf']
  have hoct := octets_between (prefixLow net.addr net.prefixlen) ts.start
    (prefixHigh net.addr net.prefixlen) ((net.prefixlen + 7) / 8)
    (by rw [prefixLow_length, hlen]) (by rw [prefixHigh_length, hlen])
    (by
      rw [prefixLow_length, net.addr_length]
      have := net.prefixlen_le
      omega)
    (fun i hi => prefix_full _ _ i (octet_lt (by omega)) hi) hlo hhi
  unfold tsIsWithinAddr
  simp only [Bool.and_eq_true, Bool.or_eq_true, beq_iff_eq]
  refine ⟨⟨⟨hf'.symm, ?_⟩, ?_⟩, ?_⟩
  · rcases hproto with hp | hp
    · exact Or.inl hp
    · exact Or.inr hp.symm
  · rw [List.all_eq_true]
    intro i hi
    have hi' : i < (net.prefixlen + 7) / 8 := List.mem_range.mp hi
    have hb := hoct i hi'
    rw [byteAt_prefixLow _ _ i (octet_lt hi'), byteAt_prefixHigh _ _ i (octet_lt hi')] at hb
    rw [← hone]
    simpa using hb
  · by_cases hport : net.port = 0
    · exact Or.inl hport
    · have e1 : (tsMatch proto net).startPort = net.port := if_neg hport
      have e2 : (tsMatch proto net).endPort = net.port := if_neg hport
      rw [e1] at hsp hep
      rw [e2] at hsp' hep'
      exact Or.inr ⟨Nat.le_antisymm hsp' hsp, Nat.le_antisymm hep' hep⟩

/-- the test lets no range through that has no packet of the prefix, as long as it is no empty
range -/
theorem tsIntersect_of_containsAddr (h : tsContainsAddr ts proto net = true)
    (hr : value ts.start ≤ value ts.stop) : ∃ o, tsIntersect ts (tsMatch proto net) = some o := by
  obtain ⟨hf, hp, ho, hsp, hep⟩ := tsContainsAddr_iff.mp h
  have hlen1 : ts.start.length = net.addr.length := by rw [ts.start_length, net.addr_length, hf]
  have hlen2 : ts.stop.length = net.addr.length := by rw [ts.stop_length, net.addr_length, hf]
  have hhigh : value ts.start ≤ value (prefixHigh net.addr net.prefixlen) := by
    refine value_le_value _ _ (by rw [prefixHigh_length, hlen1]) fun i hi => ?_
    rw [hlen1] at hi
    by_cases hk : i < (net.prefixlen + 7) / 8
    · exact UInt8.le_trans (ho i hk).1
        (UInt8.le_trans (prefixLow_le _ _ i hi) (le_prefixHigh _ _ i hi))
    · rw [prefixHigh_beyond _ _ i hi (by omega)]
      exact UInt8.le_iff_toNat_le.mpr (by have := (byteAt ts.start i).toNat_lt; simp; omega)
  have hlow : value (prefixLow net.addr net.prefixlen) ≤ value ts.stop := by
    refine value_le_value _ _ (by rw [prefixLow_length, hlen2]) fun i hi => ?_
    rw [prefixLow_length] at hi
    by_cases hk : i < (net.prefixlen + 7) / 8
    · exact UInt8.le_trans (prefixLow_le _ _ i hi)
        (UInt8.le_trans (le_prefixHigh _ _ i hi) (ho i hk).2)
    · rw [prefixLow_beyond _ _ i hi (by omega)]
      exact UInt8.le_iff_toNat_le.mpr (by simp)
  rcases tsIntersect_cases ts (tsMatch proto net) with ⟨o, ho, _⟩ | ⟨_, hnot⟩
  · exact ⟨o, ho⟩
  · refine absurd ⟨hf, ?_, ?_, ?_⟩ hnot
    · rcases hp with hp | hp
      · exact Or.inl hp
      · exact Or.inr (Or.inr hp.symm)
    · show max ts.startPort (if net.port = 0 then 0 else net.port)
        ≤ min ts.endPort (if net.port = 0 then 65535 else net.port)
      split <;> omega
    · have := @low_le_high net
      show max (value ts.start) (value (prefixLow net.addr net.prefixlen))
        ≤ min (value ts.stop) (value (prefixHigh net.addr net.prefixlen))
      omega

end

/-! ## the lookup -/

/-- a proposal the policy accepts: the packet that triggered it, if the first selector is one, is
of the policy, and one range contains the policy octet by octet -/
structure Acceptable (tss : List Ts) (proto : Nat) (net : Net) : Prop where
  first : ∀ ts0, tss.head? = some ts0 → tsIsSpecific ts0 = true →
    ∀ packet, ts0.Covers packet → (tsMatch proto net).Covers packet
  contains : ∃ ts ∈ tss, Contains ts proto net ∧ OctetBounds ts net

def Proper (tss : List Ts) : Prop := ∀ ts ∈ tss, value ts.start ≤ value ts.stop

theorem Acceptable.matching {tss : List Ts} {proto : Nat} {net : Net}
    (h : Acceptable tss proto net) : tsIsMatching tss proto net = true := by
  obtain ⟨ts, hts, hc, ho⟩ := h.contains
  unfold tsIsMatching
  cases tss with
  | nil => exact absurd hts List.not_mem_nil
  | cons ts0 rest =>
    rw [Bool.and_eq_true]
    constructor
    · cases hs : tsIsSpecific ts0 with
      | false => rfl
      | true =>
        rw [tsIsWithinAddr_of_covered hs (h.first ts0 rfl hs)]
        rfl
    · rw [List.any_eq_true]
      exact ⟨ts, hts, tsContainsAddr_of_contains hc ho⟩

theorem tsIsMatching_meets {tss : List Ts} {proto : Nat} {net : Net}
    (h : tsIsMatching tss proto net = true) (hp : Proper tss) :
    ∃ ts ∈ tss, ∃ o, tsIntersect ts (tsMatch proto net) = some o := by
  unfold tsIsMatching at h
  split at h
  · exact absurd h (by simp)
  · rw [Bool.and_eq_true, List.any_eq_true] at h
    obtain ⟨ts, hts, hc⟩ := h.2
    exact ⟨ts, hts, tsIntersect_of_containsAddr hc (hp ts hts)⟩

section
variable {r : TsRequest} {tsI tsR : List Ts}

/-- a selector of the configuration with the addresses of our side and of the peer's -/
structure Policy (r : TsRequest) (s : RcfSelector) (src peer : Net) : Prop where
  mem : s ∈ r.selectors
  applies : s.applies r = true
  own : s.src = some src
  peer : (r.leases = [] ∧ s.dst = some peer)
    ∨ (s.dst.isSome ∧ ∃ a ∈ r.leases, a.family = src.family ∧ peer = a.host)

theorem RcfSelector.find_some {s : RcfSelector} {af : Family} {found : Ts × Ts}
    (h : s.find r tsI tsR af = some found) : ∃ src peer,
      found = (tsMatch s.proto peer, tsMatch s.proto src)
        ∧ tsIsMatching tsI s.proto peer = true ∧ tsIsMatching tsR s.proto src = true := by
  unfold RcfSelector.find at h
  split at h
  · exact absurd h (by simp)
  · split at h
    · rename_i src dst hsrc hdst
      split at h
      · exact absurd h (by simp)
      · split at h
        · rename_i hm
          rw [Bool.and_eq_true, Bool.and_eq_true] at hm
          exact ⟨src, dst, (Option.some.inj h).symm, hm.2, hm.1.1⟩
        · split at h
          · rename_i hm
            rw [Bool.and_eq_true] at hm
            split at h
            · exact absurd h (by simp)
            · rename_i a ha
              have hb := List.find?_some ha
              rw [Bool.and_eq_true] at hb
              exact ⟨src, a.host, (Option.some.inj h).symm, hb.2, hm.1⟩
          · exact absurd h (by simp)
    · exact absurd h (by simp)

theorem RcfSelector.find_isSome {s : RcfSelector} {src peer : Net} (hp : Policy r s src peer)
    (hI : tsIsMatching tsI s.proto peer = true) (hR : tsIsMatching tsR s.proto src = true) :
    (s.find r tsI tsR src.family).isSome := by
  unfold RcfSelector.find
  rw [hp.applies, hp.own]
  rcases hp.peer with ⟨hl, hd⟩ | ⟨hd, a, ha, haf, hpeer⟩
  · simp [hd, hl, hI, hR]
  · obtain ⟨dst, hd⟩ := Option.isSome_iff_exists.mp hd
    have hne : r.leases.isEmpty = false := by
      rw [List.isEmpty_eq_false_iff]
      exact List.ne_nil_of_mem ha
    have hfind : (r.leases.find? fun a =>
        a.family == src.family && tsIsMatching tsI s.proto a.host).isSome := by
      rw [List.find?_isSome]
      exact ⟨a, ha, by rw [haf, ← hpeer, hI]; simp⟩
    obtain ⟨b, hb⟩ := Option.isSome_iff_exists.mp hfind
    simp [hd, hne, hR, hb]

theorem findBoth_mem {found : Ts × Ts} (h : found ∈ findBoth r tsI tsR) : ∃ proto src peer,
    found = (tsMatch proto peer, tsMatch proto src)
      ∧ tsIsMatching tsI proto peer = true ∧ tsIsMatching tsR proto src = true := by
  have hone : ∀ af, found ∈ (findIkev2selByTs r tsI tsR af).toList → ∃ proto src peer,
      found = (tsMatch proto peer, tsMatch proto src)
        ∧ tsIsMatching tsI proto peer = true ∧ tsIsMatching tsR proto src = true := by
    intro af hf
    rw [Option.mem_toList] at hf
    obtain ⟨s, _, hs⟩ := List.exists_of_findSome?_eq_some hf
    obtain ⟨src, peer, he, hI, hR⟩ := RcfSelector.find_some hs
    exact ⟨s.proto, src, peer, he, hI, hR⟩
  unfold findBoth at h
  rcases List.mem_append.mp h with h | h
  · exact hone .inet h
  · exact hone .inet6 h

theorem findBoth_ne_nil {s : RcfSelector} {src peer : Net} (hp : Policy r s src peer)
    (hI : Acceptable tsI s.proto peer) (hR : Acceptable tsR s.proto src) :
    findBoth r tsI tsR ≠ [] := by
  have hs := RcfSelector.find_isSome hp hI.matching hR.matching
  have hf : (findIkev2selByTs r tsI tsR src.family).isSome := by
    unfold findIkev2selByTs
    rw [List.findSome?_isSome_iff]
    exact ⟨s, hp.mem, hs⟩
  obtain ⟨found, hf⟩ := Option.isSome_iff_exists.mp hf
  have hmem : found ∈ findBoth r tsI tsR := by
    unfold findBoth
    cases haf : src.family with
    | inet =>
      rw [haf] at hf
      exact List.mem_append_left _ (by rw [hf]; simp)
    | inet6 =>
      rw [haf] at hf
      exact List.mem_append_right _ (by rw [hf]; simp)
  exact List.ne_nil_of_mem hmem

/-! ## substitution -/

/-- the selector of the proposal with the address the NAT gave it -/
def Substituted (sub : SockAddr) (p p' : Ts) : Prop :=
  p' = p ∨ (p.family = sub.family ∧ p'.family = p.family ∧ p'.protocol = p.protocol
    ∧ p'.startPort = p.startPort ∧ p'.endPort = p.endPort ∧ p'.start = sub.addr
    ∧ p'.stop = sub.addr)

theorem tsSubstitute_some {sub : SockAddr} {p p' : Ts} (h : tsSubstitute sub p = some p') :
    Substituted sub p p' := by
  unfold tsSubstitute at h
  split at h
  · rename_i hf
    split at h
    · exact Or.inl (Option.some.inj h).symm
    · split at h
      · exact absurd h (by simp)
      · rw [← Option.some.inj h]
        exact Or.inr ⟨hf, rfl, rfl, rfl, rfl, rfl, rfl⟩
  · exact Or.inl (Option.some.inj h).symm

theorem tsPayloadSubstitute_some {sub : SockAddr} {tss tss' : List Ts}
    (h : tsPayloadSubstitute sub tss = some tss') : List.Forall₂ (Substituted sub) tss tss' := by
  unfold tsPayloadSubstitute at h
  split at h
  · exact absurd h (by simp)
  · clear * - h
    induction tss generalizing tss' with
    | nil =>
      rw [List.mapM_nil] at h
      rw [← Option.some.inj h]
      exact List.Forall₂.nil
    | cons p ps ih =>
      rw [List.mapM_cons] at h
      cases hp : tsSubstitute sub p with
      | none => simp [hp] at h
      | some p' =>
        cases hps : ps.mapM (tsSubstitute sub) with
        | none => simp [hp, hps] at h
        | some ps' =>
          simp [hp, hps] at h
          rw [← h]
          exact List.Forall₂.cons (tsSubstitute_some hp) (ih hps)

end

/-! ## the response -/

section
variable {r : TsRequest} {seenI seenR : List Ts}

theorem seen_eq (hseen : r.seen = some (seenI, seenR)) (h : r.doesSubst = false) :
    seenI = r.tsI ∧ seenR = r.tsR := by
  unfold TsRequest.seen at hseen
  rw [h] at hseen
  simpa [eq_comm] using hseen

theorem seen_substituted (hseen : r.seen = some (seenI, seenR)) (h : r.doesSubst = true) :
    (if r.peerBehindNat then List.Forall₂ (Substituted r.remoteAddr) r.tsI seenI
      else seenI = r.tsI)
    ∧ (if r.behindNat then List.Forall₂ (Substituted r.localAddr) r.tsR seenR
      else seenR = r.tsR) := by
  have hside {nat : Bool} {sub : SockAddr} {tss tss' : List Ts}
      (hs : (if nat = true then tsPayloadSubstitute sub tss else some tss) = some tss') :
      if nat then List.Forall₂ (Substituted sub) tss tss' else tss' = tss := by
    cases nat with
    | true => exact tsPayloadSubstitute_some hs
    | false => exact (Option.some.inj hs).symm
  unfold TsRequest.seen at hseen
  rw [if_pos h] at hseen
  unfold addrSubstitute at hseen
  split at hseen
  · exact absurd hseen (by simp)
  · rename_i tsI hI
    split at hseen
    · exact absurd hseen (by simp)
    · rename_i tsR hR
      rw [Option.some.injEq, Prod.mk.injEq] at hseen
      rw [← hseen.1, ← hseen.2]
      exact ⟨hside hI, hside hR⟩

/-- a build with NAT traversal answers the first lookup with a part of the proposal -/
theorem responderTs_covered {tsI tsR : List Ts} (hseen : r.seen = some (seenI, seenR))
    (hnatt : r.natt = true) (hfirst : r.doesSubst = false ∨ findBoth r seenI seenR ≠ [])
    (h : responderTs r = some (tsI, tsR)) : CoveredBy tsI seenI ∧ CoveredBy tsR seenR := by
  unfold responderTs at h
  simp only [hseen] at h
  split at h
  · rename_i hnil
    rcases hfirst with hs | hs
    · simp [hs] at h
    · exact absurd hnil hs
  · rw [if_pos hnatt] at h
    split at h
    · rename_i tI tR hI hR
      rw [Option.some.injEq, Prod.mk.injEq] at h
      rw [← h.1, ← h.2]
      exact ⟨tsNarrowToProposal_covered hI, tsNarrowToProposal_covered hR⟩
    · exact absurd h (by simp)

/-- what the first lookup finds survives the narrowing -/
theorem responderTs_of_found (hseen : r.seen = some (seenI, seenR))
    (hI : Proper seenI) (hR : Proper seenR) (hfound : findBoth r seenI seenR ≠ []) :
    (responderTs r).isSome := by
  obtain ⟨found, hmem⟩ := List.exists_mem_of_ne_nil _ hfound
  obtain ⟨proto, src, peer, he, hmI, hmR⟩ := findBoth_mem hmem
  have hnI : (tsNarrowToProposal seenI ((findBoth r seenI seenR).map Prod.fst)).isSome := by
    obtain ⟨p, hp, o, ho⟩ := tsIsMatching_meets hmI hI
    refine tsNarrowToProposal_isSome hp (List.mem_map.mpr ⟨found, hmem, ?_⟩) ho
    rw [he]
  have hnR : (tsNarrowToProposal seenR ((findBoth r seenI seenR).map Prod.snd)).isSome := by
    obtain ⟨p, hp, o, ho⟩ := tsIsMatching_meets hmR hR
    refine tsNarrowToProposal_isSome hp (List.mem_map.mpr ⟨found, hmem, ?_⟩) ho
    rw [he]
  obtain ⟨tI, hnI⟩ := Option.isSome_iff_exists.mp hnI
  obtain ⟨tR, hnR⟩ := Option.isSome_iff_exists.mp hnR
  unfold responderTs
  simp only [hseen, hnI, hnR]
  split
  · rfl
  · rfl

/-- for every proposal and configuration.  The first lookup is made for the proposal as the NATs
changed it: only the addresses of a NATed party's selectors are other ones, and only in transport
mode.  A build with NAT traversal answers that lookup with packets of this proposal only.  A
proposal that the policy accepts, after or before the change, is answered. -/
theorem responder_narrowing (r : TsRequest) (seenI seenR : List Ts)
    (hseen : r.seen = some (seenI, seenR)) :
    (r.doesSubst = false → seenI = r.tsI ∧ seenR = r.tsR)
    ∧ (r.doesSubst = true →
      (if r.peerBehindNat then List.Forall₂ (Substituted r.remoteAddr) r.tsI seenI
        else seenI = r.tsI)
      ∧ (if r.behindNat then List.Forall₂ (Substituted r.localAddr) r.tsR seenR
        else seenR = r.tsR))
    ∧ (r.natt = true → r.doesSubst = false ∨ findBoth r seenI seenR ≠ [] →
      ∀ tsI tsR, responderTs r = some (tsI, tsR) → CoveredBy tsI seenI ∧ CoveredBy tsR seenR)
    ∧ (Proper seenI → Proper seenR → ∀ s src peer pI pR, Policy r s src peer →
      (pI, pR) = (seenI, seenR) ∨ (pI, pR) = (r.tsI, r.tsR) →
      Acceptable pI s.proto peer → Acceptable pR s.proto src → (responderTs r).isSome) := by
  refine ⟨seen_eq hseen, seen_substituted hseen, ?_, ?_⟩
  · intro hnatt hfirst tsI tsR h
    exact responderTs_covered hseen hnatt hfirst h
  · intro hPI hPR s src peer pI pR hpol hprop hI hR
    have hfound := findBoth_ne_nil hpol hI hR
    by_cases hfirst : findBoth r seenI seenR = []
    · -- the first lookup misses: the proposal was changed, and the original one is looked for
      rcases hprop with he | he
      · rw [Prod.mk.injEq] at he
        rw [he.1, he.2] at hfound
        exact absurd hfirst hfound
      · rw [Prod.mk.injEq] at he
        rw [he.1, he.2] at hfound
        have hsub : r.doesSubst = true := by
          by_contra hno
          obtain ⟨e1, e2⟩ := seen_eq hseen (by simpa using hno)
          rw [e1, e2] at hfirst
          exact hfound hfirst
        unfold responderTs
        simp only [hseen, hfirst, hsub, if_true]
        rfl
    · exact responderTs_of_found hseen hPI hPR hfirst

end

/-! ## a gateway for 10.0.1.0/26 -/

theorem contains_of_bounds {ts : Ts} {proto : Nat} {net : Net} (hf : ts.family = net.family)
    (hlo : value ts.start ≤ value (tsMatch proto net).start)
    (hhi : value (tsMatch proto net).stop ≤ value ts.stop) (hp : ts.protocol = tsProtoAny)
    (hsp : ts.startPort = 0) (hep : (tsMatch proto net).endPort ≤ ts.endPort) :
    Contains ts proto net := by
  intro packet hc
  obtain ⟨h1, h2, h3, _, h5, h6⟩ := hc
  exact ⟨hf.trans h1, by omega, by omega, Or.inl hp, by omega, by omega⟩

def ipv4Range (start stop : Bytes) (h1 : start.length = 4) (h2 : stop.length = 4) : Ts :=
  ⟨.inet, tsProtoAny, 0, 65535, start, stop, h1, h2⟩

def ipv4Net (addr : Bytes) (n : Nat) (h : addr.length = 4) (hn : n ≤ 32) : Net :=
  ⟨⟨.inet, addr, 0, h⟩, n, hn⟩

def anyTs : Ts := ipv4Range [0, 0, 0, 0] [255, 255, 255, 255] rfl rfl

def gatewayNet : Net := ipv4Net [10, 0, 1, 0] 26 rfl (by decide)

def gatewaySelector : RcfSelector where
  autoIpsec := true
  rmIndex := none
  outbound := true
  transport := false
  src := some (ipv4Net [0, 0, 0, 0] 0 rfl (by decide))
  dst := some gatewayNet
  protocol := rcProtoAny

def gatewayRequest (tsI : List Ts) : TsRequest where
  natt := true
  selectors := [gatewaySelector]
  rmIndex := none
  useTransport := false
  behindNat := false
  peerBehindNat := false
  localAddr := ⟨.inet, [198, 51, 100, 1], 500, rfl⟩
  remoteAddr := ⟨.inet, [203, 0, 113, 7], 500, rfl⟩
  leases := []
  tsI := tsI
  tsR := [anyTs]

def gatewayRange : Ts := ipv4Range [10, 0, 0, 0] [10, 0, 255, 255] rfl rfl

theorem acceptable_singleton {ts : Ts} {proto : Nat} {net : Net} (hs : tsIsSpecific ts = false)
    (hc : Contains ts proto net) (ho : OctetBounds ts net) : Acceptable [ts] proto net where
  first := by
    intro ts0 h hs'
    rw [List.head?_cons, Option.some.injEq] at h
    rw [← h, hs] at hs'
    exact absurd hs' (by simp)
  contains := ⟨ts, List.mem_singleton_self ts, hc, ho⟩

theorem responder_narrowing_gateway :
    responderTs (gatewayRequest [gatewayRange]) = some ([tsMatch 0 gatewayNet], [anyTs])
    ∧ CoveredBy [tsMatch 0 gatewayNet] [gatewayRange]
    ∧ (responderTs (gatewayRequest [gatewayRange])).isSome := by
  have hr : responderTs (gatewayRequest [gatewayRange])
      = some ([tsMatch 0 gatewayNet], [anyTs]) := by decide +kernel
  obtain ⟨_, _, hcov, hacc⟩ :=
    responder_narrowing (gatewayRequest [gatewayRange]) [gatewayRange] [anyTs] rfl
  refine ⟨hr, (hcov rfl (Or.inl rfl) _ _ hr).1, ?_⟩
  have hbounds {ts : Ts} {net : Net} (h : tsContainsAddr ts 0 net = true) : OctetBounds ts net :=
    (tsContainsAddr_iff.mp h).2.2.1
  refine hacc ?_ ?_ gatewaySelector (ipv4Net [0, 0, 0, 0] 0 rfl (by decide)) gatewayNet
    [gatewayRange] [anyTs] ⟨List.mem_singleton_self _, rfl, rfl, Or.inl ⟨rfl, rfl⟩⟩ (Or.inl rfl)
    (acceptable_singleton rfl (contains_of_bounds rfl ?_ ?_ rfl rfl ?_) (hbounds ?_))
    (acceptable_singleton rfl (contains_of_bounds rfl ?_ ?_ rfl rfl ?_) (hbounds ?_))
  · intro ts hts
    rw [List.mem_singleton.mp hts]
    decide +kernel
  · intro ts hts
    rw [List.mem_singleton.mp hts]
    decide +kernel
  all_goals decide +kernel

/-- transport mode with the initiator behind a NAT -/
def nattedRequest : TsRequest :=
  { gatewayRequest [ipv4Range [192, 168, 0, 2] [192, 168, 0, 2] rfl rfl] with
    useTransport := true
    peerBehindNat := true
    selectors := [{ gatewaySelector with
      transport := true, dst := some (ipv4Net [0, 0, 0, 0] 0 rfl (by decide)) }] }

/-- TCP to one port of a host outside the policy, as the packet that triggered the request -/
def strayTs : Ts := ⟨.inet, 6, 80, 80, [192, 0, 2, 5], [192, 0, 2, 5], rfl, rfl⟩

/-- a range that contains 10.0.1.0/26 without bounding it octet by octet -/
def straddlingRange : Ts := ipv4Range [10, 0, 0, 200] [10, 0, 1, 100] rfl rfl

def insideRange : Ts := ipv4Range [10, 0, 1, 5] [10, 0, 1, 9] rfl rfl

/-- the responder returns the address after the NAT instead of the proposed one; the packet in
front decides about the other ranges; a range that contains the prefix is refused; and without
NAT traversal the whole prefix is returned for a part of it -/
theorem narrowing_exceptions :
    (∃ tsI tsR, responderTs nattedRequest = some (tsI, tsR) ∧ ∃ t ∈ tsI,
      t.Covers ⟨.inet, value [203, 0, 113, 7], 6, 80⟩
        ∧ ∀ p ∈ nattedRequest.tsI, ¬ p.Covers ⟨.inet, value [203, 0, 113, 7], 6, 80⟩)
    ∧ (Contains anyTs 0 gatewayNet ∧ responderTs (gatewayRequest [strayTs, anyTs]) = none)
    ∧ (Contains straddlingRange 0 gatewayNet
      ∧ responderTs (gatewayRequest [straddlingRange]) = none)
    ∧ ∃ tsI tsR, responderTs { gatewayRequest [insideRange] with
        natt := false
        selectors := [{ gatewaySelector with
          dst := some (ipv4Net [10, 0, 1, 0] 24 rfl (by decide)) }] } = some (tsI, tsR)
      ∧ ∃ t ∈ tsI, t.Covers ⟨.inet, value [10, 0, 1, 77], 6, 80⟩
        ∧ ¬ insideRange.Covers ⟨.inet, value [10, 0, 1, 77], 6, 80⟩ := by
  refine ⟨?_, ⟨?_, by decide +kernel⟩, ⟨?_, by decide +kernel⟩, ?_⟩
  · refine ⟨[ipv4Range [203, 0, 113, 7] [203, 0, 113, 7] rfl rfl], [anyTs], ?_⟩
    decide +kernel
  · exact contains_of_bounds rfl (by decide +kernel) (by decide +kernel) rfl rfl (by decide +kernel)
  · exact contains_of_bounds rfl (by decide +kernel) (by decide +kernel) rfl rfl (by decide +kernel)
  · refine ⟨[ipv4Range [10, 0, 1, 0] [10, 0, 1, 255] rfl rfl], [anyTs], ?_⟩
    decide +kernel

end Ikev2
