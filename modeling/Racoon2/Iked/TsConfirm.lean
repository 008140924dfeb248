import Racoon2.Lib.Reads
import Racoon2.Iked.TsPayload

/-!
# The initiator's traffic selectors

`ikev2_construct_ts`, and `ikev2_confirm_ts` which compares the selectors of the responder with the
same policy selector.

* `constructTs`, `constructTsI`, `constructTsR`    the payloads of a policy selector;
* `confirmSide`             one loop of `ikev2_confirm_ts`, as a walk over the octets of the payload;
* `confirm_walk_iff`        when it comes to the selectors that the check came to;
* `own_ts_accepted_iff`     when the payloads of a policy selector come through unchanged.
-/

set_option linter.unusedVariables false

namespace Ikev2
open Bytes

/-! ## policy selectors -/

/-- an address of AF_INET or AF_INET6 -/
structure InetAddr where
  family : Family
  octets : Bytes
  octets_length : octets.length = family.size
  deriving Repr

/-- `struct rc_addrlist` -/
structure RcAddr where
  /-- `none` if the type is not RCT_ADDR_INET, or for another family -/
  inet : Option InetAddr
  port : Int
  prefixlen : Int
  deriving Repr

/-- `struct rcf_selector` -/
structure PolicySelector where
  src : List RcAddr
  dst : List RcAddr
  upperLayerProtocol : Int
  deriving Repr

def rcPortAny : Int := 0

/-- `src->port`; nothing is built for an empty list -/
def firstPort (l : List RcAddr) : Int := (l.head?.map RcAddr.port).getD rcPortAny

inductive StartEnd where
  | start
  | stop
  deriving DecidableEq, Repr

/-- `port << 8`, in the upper one of two octets -/
def upperOctet (port : Int) : Nat := (port % 256).toNat * 256

/-- `port & 0xff` -/
def lowerOctet (port : Int) : Nat := (port % 256).toNat

/-- `ulpsel2port` -/
def ulpsel2port (which : StartEnd) (s : PolicySelector) : Nat :=
  if s.upperLayerProtocol = 1 ∨ s.upperLayerProtocol = 58 then
    (if firstPort s.src ≠ rcPortAny then upperOctet (firstPort s.src)
      else if which = .start then 0x0000 else 0xFF00)
    + (if firstPort s.dst ≠ rcPortAny then lowerOctet (firstPort s.dst)
      else if which = .start then 0x00 else 0xFF)
  else if s.upperLayerProtocol = 135 then
    -- a type is compared with RC_PROTO_ANY, not with RC_PORT_ANY
    if firstPort s.src ≠ rcProtoAny then upperOctet (firstPort s.src)
    else if which = .start then 0x0000 else 0xFF00
  else 0

/-- `addrmask`: the first and the last address of a prefix -/
def addrmask : Bytes → Int → Bytes × Bytes
  | [], _ => ([], [])
  | x :: xs, prefixlen =>
    if prefixlen < 8 then
      if 0 < prefixlen then
        ((x &&& 0xFF <<< UInt8.ofNat (8 - prefixlen).toNat) :: xs.map fun _ => 0,
          (x ||| ~~~ (0xFF <<< UInt8.ofNat (8 - prefixlen).toNat)) :: xs.map fun _ => 0xFF)
      else ((x :: xs).map fun _ => 0, (x :: xs).map fun _ => 0xFF)
    else (x :: (addrmask xs (prefixlen - 8)).1, x :: (addrmask xs (prefixlen - 8)).2)

theorem addrmask_length (b : Bytes) (prefixlen : Int) :
    (addrmask b prefixlen).1.length = b.length ∧ (addrmask b prefixlen).2.length = b.length := by
  induction b generalizing prefixlen with
  | nil => exact ⟨rfl, rfl⟩
  | cons x xs ih =>
    unfold addrmask
    split
    · split
      · exact ⟨congrArg (· + 1) (List.length_map _), congrArg (· + 1) (List.length_map _)⟩
      · exact ⟨List.length_map _, List.length_map _⟩
    · exact ⟨congrArg (· + 1) (ih _).1, congrArg (· + 1) (ih _).2⟩

/-! ## the payloads of a policy selector -/

/-- `IKEV2_TS_PROTO_ANY` for `RC_PROTO_ANY` -/
def tsProto (proto : Int) : Int := if proto = rcProtoAny then (tsProtoAny : Int) else proto

def PolicySelector.proto (s : PolicySelector) : Int := tsProto s.upperLayerProtocol

def isPortProto (proto : Int) : Bool := proto == 6 || proto == 17 || proto == 132

/-- the ports that `ikev2_construct_ts` writes -/
def tsPorts (proto : Int) (uss use : Nat) (addr : RcAddr) : Nat × Nat :=
  if isPortProto proto then
    if addr.port ≠ 0 then ((addr.port % 65536).toNat, (addr.port % 65536).toNat) else (0, 65535)
  else if proto = 1 ∨ proto = 58 ∨ proto = 135 then (uss, use)
  else (0, 65535)

/-- one selector of `ikev2_construct_ts` -/
def tsOfAddr (proto : Int) (uss use : Nat) (addr : RcAddr) (a : InetAddr) : Ts where
  family := a.family
  protocol := (proto % 256).toNat
  startPort := (tsPorts proto uss use addr).1
  endPort := (tsPorts proto uss use addr).2
  start := (addrmask a.octets addr.prefixlen).1
  stop := (addrmask a.octets addr.prefixlen).2
  start_length := (addrmask_length _ _).1.trans a.octets_length
  stop_length := (addrmask_length _ _).2.trans a.octets_length

/-- `ikev2_construct_ts` -/
def constructTs (proto : Int) (uss use : Nat) (addrlist : List RcAddr) : Option Bytes :=
  match addrlist.mapM fun addr => addr.inet.map (tsOfAddr (tsProto proto) uss use addr) with
  | none => none
  | some [] => none
  | some tss => some (encodeTss tss)

/-- `ikev2_construct_ts_i` and `ikev2_construct_ts_r` -/
inductive TsSide where
  | i
  | r
  deriving DecidableEq, Repr

def PolicySelector.addrs (s : PolicySelector) : TsSide → List RcAddr
  | .i => s.src
  | .r => s.dst

def constructTsSide (side : TsSide) (s : PolicySelector) : Option Bytes :=
  constructTs s.upperLayerProtocol (ulpsel2port .start s) (ulpsel2port .stop s) (s.addrs side)

def constructTsI (s : PolicySelector) : Option Bytes := constructTsSide .i s

def constructTsR (s : PolicySelector) : Option Bytes := constructTsSide .r s

/-- a payload of `ikev2_payloads_to_blob`, with its header -/
def withPayloadHeader (next : UInt8) (body : Bytes) : Option Bytes :=
  if 0xFFFF - payloadHeaderSize < body.length then none
  else some ([next, 0] ++ enc16 (payloadHeaderSize + body.length) ++ body)

/-! ## the comparison -/

/-- `IKEV2_TS_PORT_IS_ANY` -/
def tsPortIsAny (s e : Nat) : Bool := s == 0 && e == 65535

/-- the ports of an address do not lead to the next one -/
def portsAgree (s : PolicySelector) (addr : RcAddr) (sport eport : Nat) : Bool :=
  if isPortProto s.proto then
    if addr.port ≠ 0 then addr.port == sport && addr.port == eport
    else tsPortIsAny sport eport
  else if s.proto = 1 ∨ s.proto = 58 then
    if firstPort s.src ≠ 0 ∨ firstPort s.dst ≠ 0 then
      ulpsel2port .start s == sport && ulpsel2port .stop s == eport
    else tsPortIsAny sport eport
  else if s.proto = 135 then
    if firstPort s.src ≠ 0 then
      ulpsel2port .start s == sport && ulpsel2port .stop s == eport
    else tsPortIsAny sport eport
  else tsPortIsAny sport eport

/-- a Mobility Header type is in the upper octet only -/
def maskPort (s : PolicySelector) (sport eport port : Nat) : Nat :=
  if s.proto = 135 ∧ ¬ tsPortIsAny sport eport then port / 256 * 256 else port

section
variable (m : Memory) (s : PolicySelector)

/-- the loop over the addresses, for the selector of the family `f` at `pos` -/
def findAddr (pos : Nat) (f : Family) (sport eport : Nat) : List RcAddr → Walk Bool
  | [] => pure false
  | addr :: rest =>
    if portsAgree s addr sport eport = false then findAddr pos f sport eport rest
    else
      match addr.inet with
      | none => pure false
      | some a =>
        if a.family ≠ f then findAddr pos f sport eport rest
        else do
          let saddr ← Walk.copy m (pos + tsSize) f.size
          if saddr ≠ (addrmask a.octets addr.prefixlen).1 then findAddr pos f sport eport rest
          else do
            let eaddr ← Walk.copy m (pos + tsSize + f.size) f.size
            if eaddr ≠ (addrmask a.octets addr.prefixlen).2 then findAddr pos f sport eport rest
            else pure true

/-- all selectors match, and the offsets of the selectors that were looked at -/
structure Confirmed where
  ok : Bool
  examined : List Nat
  deriving DecidableEq, Repr

/-- a loop of `ikev2_confirm_ts` over `n` selectors -/
def confirmLoop (addrlist : List RcAddr) : Nat → Nat → Walk Confirmed
  | 0, pos => pure ⟨true, []⟩
  | n + 1, pos => do
    let protocol ← Walk.read m (pos + 1)
    if s.proto ≠ protocol.toNat then pure ⟨false, [pos]⟩
    else do
      let type ← Walk.read m pos
      match tsFamily type with
      | none => pure ⟨false, [pos]⟩
      | some f => do
        let sp ← Walk.copy m (pos + 4) 2
        let ep ← Walk.copy m (pos + 6) 2
        let sport := be16 sp 0
        let eport := be16 ep 0
        let found ← findAddr m s pos f (maskPort s sport eport sport) (maskPort s sport eport eport)
          addrlist
        if found then do
          let r ← confirmLoop addrlist n (pos + tsSize + 2 * f.size)
          pure ⟨r.ok, pos :: r.examined⟩
        else pure ⟨false, [pos]⟩

/-- `ikev2_confirm_ts` for TSi or TSr -/
def confirmSide (side : TsSide) : Walk Confirmed := do
  let num ← Walk.read m 4
  confirmLoop m s (s.addrs side) num.toNat tsPayloadSize

end

inductive ConfirmResult where
  /-- 0 -/
  | ok
  /-- -1 -/
  | tsI
  /-- -2 -/
  | tsR
  deriving DecidableEq, Repr

/-- the loop ends with the last selector -/
def confirms (x : Walk Confirmed) : Bool :=
  match x.outcome with
  | .done r => r.ok
  | _ => false

/-- `ikev2_confirm_ts` -/
def confirmTs (tsI tsR : Memory) (s : PolicySelector) : ConfirmResult :=
  if confirms (confirmSide tsI s .i) then
    if confirms (confirmSide tsR s .r) then .ok else .tsR
  else .tsI

/-! ## one selector -/

/-- the loop over the addresses, for a selector that was read -/
def matchAddr (s : PolicySelector) (ts : Ts) (sport eport : Nat) : List RcAddr → Bool
  | [] => false
  | addr :: rest =>
    if portsAgree s addr sport eport = false then matchAddr s ts sport eport rest
    else
      match addr.inet with
      | none => false
      | some a =>
        if a.family = ts.family ∧ ts.start = (addrmask a.octets addr.prefixlen).1
            ∧ ts.stop = (addrmask a.octets addr.prefixlen).2 then true
        else matchAddr s ts sport eport rest

/-- the selector is one of the policy -/
def selectorMatches (s : PolicySelector) (addrlist : List RcAddr) (ts : Ts) : Bool :=
  decide (s.proto = ts.protocol) && matchAddr s ts (maskPort s ts.startPort ts.endPort ts.startPort)
    (maskPort s ts.startPort ts.endPort ts.endPort) addrlist

/-- the fields of a selector that can be read -/
theorem readTs_fields {b : Bytes} {o : Nat} {ts : Ts} (h : readTs b o = some ts) :
    o + tsSize + 2 * ts.family.size ≤ b.length ∧ ts.protocol = (byteAt b (o + 1)).toNat
      ∧ ts.startPort = be16 b (o + 4) ∧ ts.endPort = be16 b (o + 6)
      ∧ ts.start = slice b (o + tsSize) ts.family.size
      ∧ ts.stop = slice b (o + tsSize + ts.family.size) ts.family.size := by
  unfold readTs at h
  split at h
  · cases h
  · split at h
    · cases h
      exact ⟨‹_›, rfl, rfl, rfl, rfl, rfl⟩
    · cases h

section
variable {m : Memory} {s : PolicySelector} {l : List RcAddr} {pos n : Nat} {ts : Ts}

theorem findAddr_returns (h : readTs m.octets pos = some ts) (sport eport : Nat) :
    (findAddr m s pos ts.family sport eport l).Returns m.size (matchAddr s ts sport eport l) := by
  obtain ⟨hin, -, -, -, hstart, hstop⟩ := readTs_fields h
  have hcopy1 : (Walk.copy m (pos + tsSize) ts.family.size).Returns m.size ts.start := by
    rw [hstart]
    exact .copy (by unfold Memory.size; omega)
  have hcopy2 : (Walk.copy m (pos + tsSize + ts.family.size) ts.family.size).Returns m.size
      ts.stop := by
    rw [hstop]
    exact .copy (by unfold Memory.size; omega)
  induction l with
  | nil => exact .pure _
  | cons addr rest ih =>
    unfold findAddr matchAddr
    split
    · exact ih
    cases addr.inet with
    | none => exact .pure _
    | some a =>
      dsimp only
      by_cases hf : a.family = ts.family
      · rw [if_neg (not_not_intro hf)]
        refine hcopy1.bind ?_
        by_cases h1 : ts.start = (addrmask a.octets addr.prefixlen).1
        · rw [if_neg (not_not_intro h1)]
          refine hcopy2.bind ?_
          by_cases h2 : ts.stop = (addrmask a.octets addr.prefixlen).2
          · rw [if_neg (not_not_intro h2), if_pos ⟨hf, h1, h2⟩]
            exact .pure _
          · rw [if_pos h2, if_neg fun hc => h2 hc.2.2]
            exact ih
        · rw [if_pos h1, if_neg fun hc => h1 hc.2.1]
          exact ih
      · rw [if_pos hf, if_neg fun hc => hf hc.1]
        exact ih

/-- what the loop goes on with behind a selector -/
def afterSelector (m : Memory) (s : PolicySelector) (l : List RcAddr) (n pos : Nat) (ts : Ts) :
    Walk Confirmed :=
  if selectorMatches s l ts = true then do
    let r ← confirmLoop m s l n (pos + tsSize + 2 * ts.family.size)
    pure ⟨r.ok, pos :: r.examined⟩
  else pure ⟨false, [pos]⟩

/-- one selector is read inside of the payload -/
theorem confirmLoop_succ (h : readTs m.octets pos = some ts) :
    ((confirmLoop m s l (n + 1) pos).Inside m.size ↔ (afterSelector m s l n pos ts).Inside m.size) ∧
      (confirmLoop m s l (n + 1) pos).outcome = (afterSelector m s l n pos ts).outcome := by
  obtain ⟨hin, hproto, hsp, hep, -, -⟩ := readTs_fields h
  have hfam := readTs_family h
  have hsize : pos + tsSize ≤ m.size := by
    unfold Memory.size
    omega
  unfold tsSize at hsize
  have hcsp : (Walk.copy m (pos + 4) 2).Returns m.size (slice m.octets (pos + 4) 2) :=
    .copy (by omega)
  have hcep : (Walk.copy m (pos + 6) 2).Returns m.size (slice m.octets (pos + 6) 2) :=
    .copy (by omega)
  have hfound := findAddr_returns (s := s) (l := l) h (maskPort s ts.startPort ts.endPort ts.startPort)
    (maskPort s ts.startPort ts.endPort ts.endPort)
  unfold confirmLoop afterSelector selectorMatches
  rw [Walk.Returns.then_inside (.read (by omega)), Walk.Returns.then_outcome (.read (by omega)),
    hproto]
  by_cases hp : s.proto = (byteAt m.octets (pos + 1)).toNat
  · rw [if_neg (not_not_intro hp), Walk.Returns.then_inside (.read (by omega)),
      Walk.Returns.then_outcome (.read (by omega)), hfam, decide_eq_true hp, Bool.true_and]
    dsimp only
    rw [hcsp.then_inside, hcsp.then_outcome, hcep.then_inside, hcep.then_outcome,
      be16_slice _ (Nat.le_refl _), be16_slice _ (Nat.le_refl _), Nat.add_zero, Nat.add_zero, ← hsp,
      ← hep, hfound.then_inside, hfound.then_outcome]
    exact ⟨Iff.rfl, rfl⟩
  · rw [if_pos hp, decide_eq_false hp, Bool.false_and, if_neg Bool.false_ne_true]
    exact ⟨Iff.rfl, rfl⟩

end

/-! ## the selectors that were looked at -/

/-- the walk keeps inside the payload and comes to the selectors at `offsets`, one after the other,
and to all of them if it accepts -/
def Aligned (size : Nat) (offsets : List Nat) (x : Walk Confirmed) : Prop :=
  x.Inside size ∧ ∀ r, x.outcome = .done r →
    r.examined <+: offsets ∧ (r.ok = true → r.examined = offsets)

/-- no selector that the loop goes on behind declares more than its addresses need -/
def StridesFit (b : Bytes) (s : PolicySelector) (l : List RcAddr) : Nat → Nat → Prop
  | 0, pos => True
  | 1, pos => True
  | n + 2, pos => ∀ ts, readTs b pos = some ts → selectorMatches s l ts = true →
    be16 b (pos + 2) = tsSize + 2 * ts.family.size
      ∧ StridesFit b s l (n + 1) (pos + be16 b (pos + 2))

section
variable {m : Memory} {s : PolicySelector} {l : List RcAddr} {pos n : Nat} {ts : Ts}

theorem Aligned.pure_false {size : Nat} {offsets : List Nat} (h : [pos] <+: offsets) :
    Aligned size offsets (pure ⟨false, [pos]⟩) := by
  refine ⟨fun _ he => (nomatch he), fun r hr => ?_⟩
  cases hr
  exact ⟨h, fun hok => nomatch hok⟩

/-- a selector is put before those that follow it -/
theorem aligned_cons {size : Nat} {offsets : List Nat} {x : Walk Confirmed} {r : Confirmed}
    (hx : x.outcome = .done r) :
    Aligned size (pos :: offsets) (x >>= fun r => pure ⟨r.ok, pos :: r.examined⟩) ↔
      Aligned size offsets x := by
  have hinside : (x >>= fun r => pure (⟨r.ok, pos :: r.examined⟩ : Confirmed)).Inside size ↔
      x.Inside size := by
    rw [Walk.bind_done hx]
    show (∀ e ∈ x.log ++ [], e.Safe size) ↔ _
    rw [List.append_nil]
    rfl
  unfold Aligned
  rw [hinside, Walk.bind_done hx, hx]
  refine and_congr_right fun _ => ⟨fun h r' hr' => ?_, fun h r' hr' => ?_⟩
  · cases hr'
    obtain ⟨hpre, hall⟩ := h _ rfl
    exact ⟨(List.prefix_cons_inj pos).mp hpre, fun hok => (List.cons.inj (hall hok)).2⟩
  · cases hr'
    obtain ⟨hpre, hall⟩ := h _ rfl
    exact ⟨(List.prefix_cons_inj pos).mpr hpre, fun hok => congrArg (pos :: ·) (hall hok)⟩

theorem findAddr_done (m : Memory) (s : PolicySelector) (pos : Nat) (f : Family)
    (sport eport : Nat) (l : List RcAddr) :
    ∃ found, (findAddr m s pos f sport eport l).outcome = .done found := by
  induction l with
  | nil => exact ⟨_, rfl⟩
  | cons addr rest ih =>
    unfold findAddr
    split
    · exact ih
    split
    · exact ⟨_, rfl⟩
    split
    · exact ih
    rw [Walk.bind_done rfl]
    split
    · exact ih
    rw [Walk.bind_done rfl]
    split
    · exact ih
    · exact ⟨_, rfl⟩

/-- the loop has a result, and looks at the selector that it stands at -/
theorem confirmLoop_done (m : Memory) (s : PolicySelector) (l : List RcAddr) (n pos : Nat) :
    ∃ r, (confirmLoop m s l n pos).outcome = .done r ∧ (0 < n → ∃ more, r.examined = pos :: more) := by
  induction n generalizing pos with
  | zero => exact ⟨_, rfl, fun h => absurd h (Nat.lt_irrefl 0)⟩
  | succ n ih =>
    unfold confirmLoop
    rw [Walk.bind_done rfl]
    split
    · exact ⟨_, rfl, fun _ => ⟨[], rfl⟩⟩
    rw [Walk.bind_done rfl]
    split
    · exact ⟨_, rfl, fun _ => ⟨[], rfl⟩⟩
    next f _ =>
    rw [Walk.bind_done rfl, Walk.bind_done rfl]
    obtain ⟨found, hfound⟩ := findAddr_done m s pos f
      (maskPort s (be16 (m.copy (pos + 4) 2) 0) (be16 (m.copy (pos + 6) 2) 0)
        (be16 (m.copy (pos + 4) 2) 0))
      (maskPort s (be16 (m.copy (pos + 4) 2) 0) (be16 (m.copy (pos + 6) 2) 0)
        (be16 (m.copy (pos + 6) 2) 0)) l
    rw [Walk.bind_done hfound]
    split
    · obtain ⟨r, hr, -⟩ := ih (pos + tsSize + 2 * f.size)
      rw [Walk.bind_done hr]
      exact ⟨_, rfl, fun _ => ⟨r.examined, rfl⟩⟩
    · exact ⟨_, rfl, fun _ => ⟨[], rfl⟩⟩

theorem confirmLoop_aligned (h : checkTsLoop n (m.octets.drop pos) = true) :
    Aligned m.size (declaredOffsets m.octets n pos) (confirmLoop m s l n pos) ↔
      StridesFit m.octets s l n pos := by
  induction n generalizing pos with
  | zero =>
    refine ⟨fun _ => trivial, fun _ => ⟨fun _ he => absurd he List.not_mem_nil, fun r hr => ?_⟩⟩
    cases hr
    exact ⟨List.nil_prefix, fun _ => rfl⟩
  | succ n ih =>
    obtain ⟨f, hf, hmin, hin, hrest⟩ := checkTsLoop_succ.mp h
    obtain ⟨ts, hts, rfl⟩ := readTs_of_family hf (by omega)
    obtain ⟨hinside, houtcome⟩ := confirmLoop_succ (s := s) (l := l) (n := n) hts
    have hafter : Aligned m.size (declaredOffsets m.octets (n + 1) pos)
        (confirmLoop m s l (n + 1) pos) ↔
        Aligned m.size (declaredOffsets m.octets (n + 1) pos) (afterSelector m s l n pos ts) := by
      unfold Aligned
      rw [hinside, houtcome]
    rw [hafter]
    unfold afterSelector declaredOffsets
    by_cases hmatch : selectorMatches s l ts = true
    · rw [if_pos hmatch]
      obtain ⟨r, hr, hhead⟩ := confirmLoop_done m s l n (pos + tsSize + 2 * ts.family.size)
      rw [aligned_cons hr]
      cases n with
      | zero =>
        refine ⟨fun _ => trivial, fun _ => ⟨fun _ he => absurd he List.not_mem_nil, fun r hr => ?_⟩⟩
        cases hr
        exact ⟨List.nil_prefix, fun _ => rfl⟩
      | succ n =>
        by_cases hlen : be16 m.octets (pos + 2) = tsSize + 2 * ts.family.size
        · rw [Nat.add_assoc, ← hlen, ih hrest]
          refine ⟨fun hfit ts' hts' _ => ?_, fun hfit => (hfit ts hts hmatch).2⟩
          cases hts.symm.trans hts'
          exact ⟨hlen, hfit⟩
        · -- the loop comes to octets where no selector begins
          refine ⟨fun hal => ?_, fun hfit => absurd (hfit ts hts hmatch).1 hlen⟩
          obtain ⟨more, hmore⟩ := hhead (Nat.succ_pos n)
          have hpre := (hal.2 r hr).1
          rw [hmore] at hpre
          obtain ⟨rest, hrest'⟩ := hpre
          have hpos := (List.cons.inj hrest').1
          omega
    · rw [if_neg hmatch]
      refine ⟨fun _ => ?_, fun _ => .pure_false ⟨_, rfl⟩⟩
      cases n with
      | zero => exact trivial
      | succ n =>
        intro ts' hts' hmatch'
        cases hts.symm.trans hts'
        exact absurd hmatch' hmatch

end

/-- a payload, with the octets of the message behind it -/
def TsPayload.memory (p : TsPayload) (beyond : Nat → UInt8) : Memory where
  octets := p.octets
  beyond := beyond
  octets_length := by
    rw [p.octets_length]
    exact Nat.lt_of_lt_of_le (be16_lt p.octets 2) (by decide)

/-- the loop of `ikev2_confirm_ts` for one payload comes to the selectors that the check came to
exactly if the lengths that it goes by are the declared ones -/
theorem confirm_walk_iff (p : TsPayload) (beyond : Nat → UInt8) (s : PolicySelector)
    (side : TsSide) :
    Aligned p.octets.length p.offsets (confirmSide (p.memory beyond) s side) ↔
      StridesFit p.octets s (s.addrs side) (byteAt p.octets 4).toNat tsPayloadSize := by
  obtain ⟨hloop, hlen⟩ := p.loop_checked
  have hread : (Walk.read (p.memory beyond) 4).Returns (p.memory beyond).size
      (byteAt p.octets 4) := by
    refine Walk.Returns.read ?_
    show 4 < p.octets.length
    rw [p.octets_length]
    exact Nat.lt_of_lt_of_le (by decide) hlen
  have haligned := confirmLoop_aligned (m := p.memory beyond) (s := s) (l := s.addrs side) hloop
  refine Iff.trans ?_ haligned
  unfold Aligned confirmSide
  show Walk.Inside (p.memory beyond).size _ ∧ _ ↔ _
  rw [hread.then_inside, hread.then_outcome]
  rfl

/-- TCP from and to 10.0.0.3, with any ports -/
def tcpHost : PolicySelector where
  src := [⟨some ⟨.inet, [10, 0, 0, 3], rfl⟩, 0, 32⟩]
  dst := [⟨some ⟨.inet, [10, 0, 0, 3], rfl⟩, 0, 32⟩]
  upperLayerProtocol := 6

/-- two selectors of 10.0.0.3; the first declares 20 octets -/
def overlongPayload : TsPayload where
  octets := [0, 0, 0, 44, 2, 0, 0, 0,
    7, 6, 0, 20, 0, 0, 255, 255, 10, 0, 0, 3, 10, 0, 0, 3, 0, 0, 0, 0,
    7, 6, 0, 16, 0, 0, 255, 255, 10, 0, 0, 3, 10, 0, 0, 3]
  octets_length := by decide
  checked := by decide

/-- both selectors match, but the second one is looked for at the offset 24, not at 28 -/
theorem overlong_not_aligned :
    (∀ ts ∈ overlongPayload.selectors, selectorMatches tcpHost tcpHost.src ts = true) ∧
    (confirmSide (overlongPayload.memory fun _ => 0) tcpHost .i).outcome =
      .done ⟨false, [8, 24]⟩ ∧
    overlongPayload.offsets = [8, 28] ∧
    ¬ Aligned overlongPayload.octets.length overlongPayload.offsets
      (confirmSide (overlongPayload.memory fun _ => 0) tcpHost .i) := by
  refine ⟨by decide, by decide, by decide, ?_⟩
  intro h
  have hpre := (h.2 ⟨false, [8, 24]⟩ (by decide)).1
  revert hpre
  decide

/-! ## the answer to a payload whose lengths fit -/

section
variable {m : Memory} {s : PolicySelector} {l : List RcAddr} {pos n : Nat}

/-- every selector is compared -/
theorem confirmLoop_ok (h : checkTsLoop n (m.octets.drop pos) = true)
    (hfit : StridesFit m.octets s l n pos) :
    ∃ examined, (confirmLoop m s l n pos).outcome = .done
      ⟨((declaredOffsets m.octets n pos).filterMap (readTs m.octets)).all (selectorMatches s l),
        examined⟩ := by
  induction n generalizing pos with
  | zero => exact ⟨[], rfl⟩
  | succ n ih =>
    obtain ⟨f, hf, hmin, hin, hrest⟩ := checkTsLoop_succ.mp h
    obtain ⟨ts, hts, rfl⟩ := readTs_of_family hf (by omega)
    rw [(confirmLoop_succ hts).2, declaredOffsets, List.filterMap_cons, hts]
    dsimp only
    rw [List.all_cons]
    unfold afterSelector
    by_cases hmatch : selectorMatches s l ts = true
    · rw [if_pos hmatch, hmatch, Bool.true_and]
      cases n with
      | zero => exact ⟨[pos], rfl⟩
      | succ n =>
        obtain ⟨hlen, hnext⟩ := hfit ts hts hmatch
        obtain ⟨examined, hdone⟩ := ih hrest hnext
        rw [Nat.add_assoc, ← hlen, Walk.bind_done hdone]
        exact ⟨pos :: examined, rfl⟩
    · rw [if_neg hmatch, Bool.eq_false_iff.mpr hmatch, Bool.false_and]
      exact ⟨[pos], rfl⟩

/-- what `encodeTs` writes declares what its addresses need -/
theorem stridesFit_encoded (s : PolicySelector) (l : List RcAddr) (tss : List Ts) (pre : Bytes) :
    StridesFit (pre ++ tss.flatMap encodeTs) s l tss.length pre.length := by
  induction tss generalizing pre with
  | nil => exact trivial
  | cons t tss ih =>
    cases tss with
    | nil => exact trivial
    | cons t' tss =>
      intro ts hts _
      have hfam : ts.family = t.family := by
        have h := readTs_family hts
        rw [List.flatMap_cons, show pre.length = pre.length + 0 from rfl, byteAt_append_right] at h
        exact (Option.some.inj ((tsFamily_tsType t.family).symm.trans h)).symm
      have hlen : be16 (pre ++ (t :: t' :: tss).flatMap encodeTs) (pre.length + 2) =
          tsSize + 2 * ts.family.size := by
        rw [List.flatMap_cons, be16_encodeTs_length, hfam]
      refine ⟨hlen, ?_⟩
      have hnext : pre.length + (tsSize + 2 * ts.family.size) = (pre ++ encodeTs t).length := by
        rw [List.length_append, encodeTs_length, hfam]
      rw [hlen, hnext, List.flatMap_cons, ← List.append_assoc]
      exact ih (pre ++ encodeTs t)

/-- the count has to be the number of the selectors that were written -/
theorem checkTsLoop_encoded_iff (k : Nat) (tss : List Ts) (pre : Bytes) :
    checkTsLoop k ((pre ++ tss.flatMap encodeTs).drop pre.length) = true ↔ k = tss.length := by
  refine ⟨fun h => ?_, fun h => h ▸ checkTsLoop_encoded tss pre⟩
  induction tss generalizing k pre with
  | nil =>
    cases k with
    | zero => rfl
    | succ k =>
      obtain ⟨f, -, hmin, hin, -⟩ := checkTsLoop_succ.mp h
      rw [List.flatMap_nil, List.append_nil] at hmin hin
      unfold tsSize at hmin
      omega
  | cons t tss ih =>
    cases k with
    | zero =>
      have hlen := checkTsLoop_zero.mp h
      rw [List.flatMap_cons, List.length_append, List.length_append, encodeTs_length] at hlen
      unfold tsSize at hlen
      omega
    | succ k =>
      obtain ⟨f, -, -, -, hrest⟩ := checkTsLoop_succ.mp h
      have hnext : pre.length + (tsSize + 2 * t.family.size) = (pre ++ encodeTs t).length := by
        rw [List.length_append, encodeTs_length]
      rw [List.flatMap_cons, be16_encodeTs_length, hnext, ← List.append_assoc] at hrest
      rw [List.length_cons, ih k (pre ++ encodeTs t) hrest]

end

/-! ## the payloads of a policy selector -/

/-- the range of an address of a policy -/
def RcAddr.range (addr : RcAddr) : Option (Family × Bytes × Bytes) :=
  addr.inet.map fun a => (a.family, addrmask a.octets addr.prefixlen)

/-- the selectors for an address list -/
def ownSelectors (s : PolicySelector) (l : List RcAddr) : List Ts :=
  l.filterMap fun addr => addr.inet.map (tsOfAddr s.proto (ulpsel2port .start s) (ulpsel2port .stop s) addr)

/-- an address list that `ikev2_construct_ts` writes, in the octets of one payload -/
structure Buildable (l : List RcAddr) : Prop where
  nonempty : l ≠ []
  inet : ∀ addr ∈ l, addr.inet.isSome = true
  fits : tsHeadSize + (l.map fun addr => addr.inet.elim 0 fun a => tsSize + 2 * a.family.size).sum ≤
    0xFFFF - payloadHeaderSize

theorem matchAddr_iff {s : PolicySelector} {ts : Ts} {sport eport : Nat} {l : List RcAddr}
    (h : ∀ addr ∈ l, addr.inet.isSome = true) :
    matchAddr s ts sport eport l = true ↔ ∃ addr ∈ l, portsAgree s addr sport eport = true
      ∧ addr.range = some (ts.family, ts.start, ts.stop) := by
  induction l with
  | nil => exact ⟨fun h => (nomatch h), fun ⟨_, hin, _⟩ => nomatch hin⟩
  | cons addr rest ih =>
    obtain ⟨haddr, hrest⟩ := List.forall_mem_cons.mp h
    obtain ⟨a, ha⟩ := Option.isSome_iff_exists.mp haddr
    rw [matchAddr, List.exists_mem_cons_iff, ← ih hrest]
    by_cases hports : portsAgree s addr sport eport = true
    · rw [if_neg (by rw [hports]; decide), ha, RcAddr.range, ha]
      dsimp only
      have hrange : (Option.map (fun a => (a.family, addrmask a.octets addr.prefixlen)) (some a) =
          some (ts.family, ts.start, ts.stop)) ↔ (a.family = ts.family
          ∧ ts.start = (addrmask a.octets addr.prefixlen).1
          ∧ ts.stop = (addrmask a.octets addr.prefixlen).2) := by
        simp only [Option.map_some, Option.some.injEq, Prod.ext_iff]
        exact and_congr_right fun _ => and_congr eq_comm eq_comm
      rw [hrange]
      split
      · next hc => exact ⟨fun _ => .inl ⟨hports, hc⟩, fun _ => rfl⟩
      · next hc =>
        refine ⟨.inr, ?_⟩
        rintro (hc' | hr)
        · exact absurd hc'.2 hc
        · exact hr
    · rw [if_pos (Bool.eq_false_iff.mpr hports)]
      refine ⟨.inr, ?_⟩
      rintro (hc | hr)
      · exact absurd hc.1 hports
      · exact hr

section
variable {s : PolicySelector} {l : List RcAddr}

theorem mapM_inet {α : Type} (g : RcAddr → InetAddr → α) (h : ∀ addr ∈ l, addr.inet.isSome = true) :
    (l.mapM fun addr => addr.inet.map (g addr)) = some (l.filterMap fun addr => addr.inet.map (g addr)) := by
  induction l with
  | nil => rfl
  | cons addr rest ih =>
    obtain ⟨haddr, hrest⟩ := List.forall_mem_cons.mp h
    obtain ⟨a, ha⟩ := Option.isSome_iff_exists.mp haddr
    rw [List.mapM_cons, ih hrest, List.filterMap_cons, ha]
    rfl

theorem mapM_inet_some {α : Type} {g : RcAddr → InetAddr → α} {tss : List α}
    (h : (l.mapM fun addr => addr.inet.map (g addr)) = some tss) :
    ∀ addr ∈ l, addr.inet.isSome = true := by
  induction l generalizing tss with
  | nil => exact List.forall_mem_nil _
  | cons addr rest ih =>
    rw [List.mapM_cons] at h
    cases ha : addr.inet with
    | none =>
      rw [ha] at h
      cases h
    | some a =>
      rw [ha] at h
      cases hrest : rest.mapM fun addr => addr.inet.map (g addr) with
      | none =>
        rw [hrest] at h
        cases h
      | some tss' => exact List.forall_mem_cons.mpr ⟨by rw [ha]; rfl, ih hrest⟩

theorem ownSelectors_length (h : ∀ addr ∈ l, addr.inet.isSome = true) :
    (ownSelectors s l).length = l.length := by
  unfold ownSelectors
  rw [List.length_filterMap_eq_countP, List.countP_eq_length]
  intro addr haddr
  rw [Option.isSome_map]
  exact h addr haddr

theorem ownSelectors_octets : ((ownSelectors s l).flatMap encodeTs).length =
    (l.map fun addr => addr.inet.elim 0 fun a => tsSize + 2 * a.family.size).sum := by
  induction l with
  | nil => rfl
  | cons addr rest ih =>
    unfold ownSelectors at ih ⊢
    rw [List.filterMap_cons, List.map_cons, List.sum_cons, ← ih]
    cases addr.inet with
    | none => exact (Nat.zero_add _).symm
    | some a =>
      show (List.flatMap encodeTs (_ :: _)).length = _
      rw [List.flatMap_cons, List.length_append, encodeTs_length]
      rfl

/-- what `ikev2_construct_ts` writes for one side -/
theorem constructTsSide_iff {side : TsSide} {body : Bytes} : constructTsSide side s = some body ↔
    s.addrs side ≠ [] ∧ (∀ addr ∈ s.addrs side, addr.inet.isSome = true)
      ∧ body = encodeTss (ownSelectors s (s.addrs side)) := by
  unfold constructTsSide constructTs
  constructor
  · intro h
    split at h
    · cases h
    · cases h
    · next tss hne hmap =>
      have hinet := mapM_inet_some hmap
      have hown : some (ownSelectors s (s.addrs side)) = some tss :=
        (mapM_inet _ hinet).symm.trans hmap
      obtain rfl := Option.some.inj hown
      cases h
      refine ⟨fun hnil => ?_, hinet, rfl⟩
      rw [hnil] at hne
      exact hne rfl
  · rintro ⟨hne, hinet, rfl⟩
    have hlen := ownSelectors_length (s := s) hinet
    have hown : ((s.addrs side).mapM fun addr => addr.inet.map (tsOfAddr s.proto
        (ulpsel2port .start s) (ulpsel2port .stop s) addr)) = some (ownSelectors s (s.addrs side)) :=
      mapM_inet _ hinet
    unfold PolicySelector.proto at hown
    rw [hown]
    split
    · next hnone => cases hnone
    · next hnil =>
      rw [Option.some.inj hnil] at hlen
      exact absurd (List.eq_nil_of_length_eq_zero hlen.symm) hne
    · next tss _ hsome => rw [← Option.some.inj hsome]

/-- the octets of a payload before its selectors -/
def ownHead (next : UInt8) (tss : List Ts) : Bytes :=
  [next, 0] ++ enc16 (payloadHeaderSize + (encodeTss tss).length)
    ++ [UInt8.ofNat tss.length, 0, 0, 0]

def ownPayload (next : UInt8) (tss : List Ts) : Bytes := ownHead next tss ++ tss.flatMap encodeTs

theorem Buildable.octets_le (h : Buildable l) :
    (encodeTss (ownSelectors s l)).length ≤ 0xFFFF - payloadHeaderSize := by
  refine Nat.le_trans (Nat.le_of_eq ?_) h.fits
  rw [← ownSelectors_octets (s := s)]
  exact List.length_append

/-- a payload is written exactly for the lists that can be built -/
theorem own_payload_iff (side : TsSide) {next : UInt8} {payload : Bytes} :
    (∃ body, constructTsSide side s = some body ∧ withPayloadHeader next body = some payload) ↔
      Buildable (s.addrs side) ∧ payload = ownPayload next (ownSelectors s (s.addrs side)) := by
  have hlen : (encodeTss (ownSelectors s (s.addrs side))).length = tsHeadSize
      + ((s.addrs side).map fun addr => addr.inet.elim 0 fun a => tsSize + 2 * a.family.size).sum := by
    rw [← ownSelectors_octets (s := s)]
    exact List.length_append
  have hown : ownPayload next (ownSelectors s (s.addrs side)) = [next, 0]
      ++ enc16 (payloadHeaderSize + (encodeTss (ownSelectors s (s.addrs side))).length)
      ++ encodeTss (ownSelectors s (s.addrs side)) := by
    unfold ownPayload ownHead
    rw [List.append_assoc]
    rfl
  unfold withPayloadHeader
  constructor
  · rintro ⟨body, hbody, hpayload⟩
    obtain ⟨hne, hinet, rfl⟩ := constructTsSide_iff.mp hbody
    split at hpayload
    · cases hpayload
    · next hfits => exact ⟨⟨hne, hinet, by omega⟩, (Option.some.inj hpayload).symm.trans hown.symm⟩
  · rintro ⟨⟨hne, hinet, hfits⟩, rfl⟩
    refine ⟨_, constructTsSide_iff.mpr ⟨hne, hinet, rfl⟩, ?_⟩
    rw [if_neg (by omega), hown]

end

/-! ## ports -/

theorem ulpsel2port_lt (which : StartEnd) (s : PolicySelector) : ulpsel2port which s < 65536 := by
  unfold ulpsel2port upperOctet lowerOctet
  split_ifs <;> omega

/-- a type that is built for the Mobility Header has no lower octet -/
theorem ulpsel2port_mh {s : PolicySelector} (h : s.upperLayerProtocol = 135) (which : StartEnd) :
    ulpsel2port which s / 256 * 256 = ulpsel2port which s := by
  unfold ulpsel2port upperOctet
  rw [if_neg (by omega), if_pos h]
  split
  · omega
  · cases which <;> rfl

/-- the ports that an address of TCP, UDP or SCTP accepts -/
def SamePort (a b : RcAddr) : Prop := b.port = a.port % 65536 ∧ (b.port = 0 ↔ a.port = 0)

section
variable {s : PolicySelector}

theorem maskPort_of_ne (h : s.proto ≠ 135) (sport eport port : Nat) :
    maskPort s sport eport port = port := if_neg fun hc => h hc.1

theorem portsAgree_portProto {a b : RcAddr} (h : isPortProto s.proto = true) :
    portsAgree s b (tsPorts s.proto (ulpsel2port .start s) (ulpsel2port .stop s) a).1
      (tsPorts s.proto (ulpsel2port .start s) (ulpsel2port .stop s) a).2 = true ↔ SamePort a b := by
  unfold portsAgree tsPorts tsPortIsAny SamePort
  rw [if_pos h, if_pos h]
  by_cases ha : a.port = 0
  · rw [if_neg (not_not_intro ha), ha]
    by_cases hb : b.port = 0
    · rw [if_neg (not_not_intro hb), hb]
      decide
    · rw [if_pos hb]
      simp only [Bool.and_eq_true, beq_iff_eq]
      omega
  · rw [if_pos ha]
    by_cases hb : b.port = 0
    · rw [if_neg (not_not_intro hb)]
      simp only [Bool.and_eq_true, beq_iff_eq]
      omega
    · rw [if_pos hb]
      simp only [Bool.and_eq_true, beq_iff_eq]
      omega

theorem proto_eq {k : Int} (hk : k ≠ 0) : s.proto = k → s.upperLayerProtocol = k := by
  unfold PolicySelector.proto tsProto
  split
  · intro h
    exact absurd h.symm hk
  · exact id

/-- the type and the code of ICMP are any if there is neither -/
theorem ulpsel2port_icmp_any (hp : s.upperLayerProtocol = 1 ∨ s.upperLayerProtocol = 58)
    (h : ¬ (firstPort s.src ≠ 0 ∨ firstPort s.dst ≠ 0)) :
    ulpsel2port .start s = 0 ∧ ulpsel2port .stop s = 65535 := by
  rw [not_or, not_not, not_not] at h
  unfold ulpsel2port rcPortAny
  rw [if_pos hp, if_pos hp, h.1, h.2]
  decide

/-- without a type the ports of the Mobility Header are 0, not any -/
theorem ulpsel2port_mh_any (hp : s.upperLayerProtocol = 135) (h : firstPort s.src = 0)
    (which : StartEnd) : ulpsel2port which s = 0 := by
  unfold ulpsel2port
  rw [if_neg (by omega), if_pos hp, h]
  rfl

/-- the ports of all other protocols depend on the policy alone -/
theorem portsAgree_icmp (h : s.proto = 1 ∨ s.proto = 58) (b : RcAddr) :
    portsAgree s b
      (maskPort s (ulpsel2port .start s) (ulpsel2port .stop s) (ulpsel2port .start s))
      (maskPort s (ulpsel2port .start s) (ulpsel2port .stop s) (ulpsel2port .stop s)) = true := by
  have hne : s.proto ≠ 135 := by omega
  have hport : isPortProto s.proto = false := by
    rcases h with h | h <;> rw [h] <;> rfl
  have hulp : s.upperLayerProtocol = 1 ∨ s.upperLayerProtocol = 58 :=
    h.imp (proto_eq (by decide)) (proto_eq (by decide))
  unfold portsAgree
  rw [if_neg (by rw [hport]; decide), if_pos h, maskPort_of_ne hne, maskPort_of_ne hne]
  split
  · rw [beq_self_eq_true, beq_self_eq_true]
    rfl
  · next hany =>
    obtain ⟨hstart, hstop⟩ := ulpsel2port_icmp_any hulp hany
    rw [hstart, hstop]
    rfl

theorem portsAgree_mh (h : s.proto = 135) (b : RcAddr) :
    portsAgree s b
      (maskPort s (ulpsel2port .start s) (ulpsel2port .stop s) (ulpsel2port .start s))
      (maskPort s (ulpsel2port .start s) (ulpsel2port .stop s) (ulpsel2port .stop s)) = true ↔
      firstPort s.src ≠ 0 := by
  have hulp := proto_eq (by decide) h
  have hmask : ∀ which, maskPort s (ulpsel2port .start s) (ulpsel2port .stop s)
      (ulpsel2port which s) = ulpsel2port which s := by
    intro which
    unfold maskPort
    split
    · exact ulpsel2port_mh hulp which
    · rfl
  have hport : isPortProto s.proto = false := by
    rw [h]
    rfl
  unfold portsAgree
  rw [if_neg (by rw [hport]; decide), if_neg (by omega), if_pos h, hmask, hmask]
  by_cases hzero : firstPort s.src = 0
  · rw [if_neg (not_not_intro hzero), ulpsel2port_mh_any hulp hzero, ulpsel2port_mh_any hulp hzero]
    exact iff_of_false (by decide) (not_not_intro hzero)
  · rw [if_pos hzero, beq_self_eq_true, beq_self_eq_true]
    exact iff_of_true rfl hzero

theorem portsAgree_other {a b : RcAddr} {sport eport : Nat} (h : isPortProto s.proto = false)
    (hports : (sport, eport) = tsPorts s.proto (ulpsel2port .start s) (ulpsel2port .stop s) a) :
    portsAgree s b (maskPort s sport eport sport) (maskPort s sport eport eport) = true ↔
      (s.upperLayerProtocol = 135 → firstPort s.src ≠ 0) := by
  unfold tsPorts at hports
  rw [if_neg (by rw [h]; decide)] at hports
  by_cases hicmp : s.proto = 1 ∨ s.proto = 58
  · have hulp : s.upperLayerProtocol = 1 ∨ s.upperLayerProtocol = 58 :=
      hicmp.imp (proto_eq (by decide)) (proto_eq (by decide))
    rw [if_pos (by omega)] at hports
    obtain ⟨rfl, rfl⟩ := Prod.mk.inj hports
    exact iff_of_true (portsAgree_icmp hicmp b) (by omega)
  by_cases hmh : s.proto = 135
  · have hulp := proto_eq (by decide) hmh
    rw [if_pos (by omega)] at hports
    obtain ⟨rfl, rfl⟩ := Prod.mk.inj hports
    exact (portsAgree_mh hmh b).trans ⟨fun hport _ => hport, fun hport => hport hulp⟩
  · rw [if_neg (by omega)] at hports
    obtain ⟨rfl, rfl⟩ := Prod.mk.inj hports
    have hulp : s.upperLayerProtocol ≠ 135 := by
      intro hc
      unfold PolicySelector.proto at hmh
      rw [hc] at hmh
      exact hmh rfl
    unfold portsAgree
    rw [if_neg (by rw [h]; decide), if_neg hicmp, if_neg hmh, maskPort_of_ne hmh, maskPort_of_ne hmh]
    exact iff_of_true rfl fun hc => absurd hc hulp

end

/-! ## what comes through -/

/-- a protocol, lists and ports that their fields hold, and no Mobility Header without a type -/
structure OwnTsFit (s : PolicySelector) : Prop where
  proto : 0 ≤ s.proto ∧ s.proto ≤ 255
  count : ∀ side, (s.addrs side).length ≤ 255
  mobility : s.upperLayerProtocol = 135 → firstPort s.src ≠ 0
  /-- a port that its octets do not hold is the port of another address of the same range -/
  ports : isPortProto s.proto = true → ∀ side, ∀ a ∈ s.addrs side,
    ∃ b ∈ s.addrs side, b.range = a.range ∧ SamePort a b

section
variable {s : PolicySelector} {l : List RcAddr}

theorem ownSelectors_fits {t : Ts} (h : t ∈ ownSelectors s l) : t.Fits := by
  obtain ⟨addr, -, haddr⟩ := List.mem_filterMap.mp h
  obtain ⟨a, -, rfl⟩ := Option.map_eq_some_iff.mp haddr
  have hstart := ulpsel2port_lt .start s
  have hstop := ulpsel2port_lt .stop s
  have hports : (tsPorts s.proto (ulpsel2port .start s) (ulpsel2port .stop s) addr).1 < 65536
      ∧ (tsPorts s.proto (ulpsel2port .start s) (ulpsel2port .stop s) addr).2 < 65536 := by
    unfold tsPorts
    split_ifs <;> constructor <;> dsimp only <;> omega
  refine ⟨?_, hports.1, hports.2⟩
  show (s.proto % 256).toNat < 256
  omega

/-- the selector of an address is compared with all addresses of the list -/
theorem own_matches_iff (hinet : ∀ addr ∈ l, addr.inet.isSome = true) {a : RcAddr} {ia : InetAddr}
    (ha : a ∈ l) (hia : a.inet = some ia) :
    selectorMatches s l (tsOfAddr s.proto (ulpsel2port .start s) (ulpsel2port .stop s) a ia) = true ↔
      (0 ≤ s.proto ∧ s.proto ≤ 255) ∧ (s.upperLayerProtocol = 135 → firstPort s.src ≠ 0)
        ∧ (isPortProto s.proto = true → ∃ b ∈ l, b.range = a.range ∧ SamePort a b) := by
  have hrange : a.range = some (ia.family, (addrmask ia.octets a.prefixlen).1,
      (addrmask ia.octets a.prefixlen).2) := by
    unfold RcAddr.range
    rw [hia]
    rfl
  have hproto : s.proto = ((s.proto % 256).toNat : Nat) ↔ 0 ≤ s.proto ∧ s.proto ≤ 255 := by omega
  unfold selectorMatches
  rw [Bool.and_eq_true, decide_eq_true_iff, matchAddr_iff hinet]
  refine and_congr hproto ?_
  show (∃ b ∈ l, _ ∧ b.range = some (ia.family, (addrmask ia.octets a.prefixlen).1,
    (addrmask ia.octets a.prefixlen).2)) ↔ _
  rw [← hrange]
  by_cases hport : isPortProto s.proto = true
  · have hne : s.proto ≠ 135 := by
      intro hc
      rw [hc] at hport
      exact absurd hport (by decide)
    have hulp : s.upperLayerProtocol ≠ 135 := by
      intro hc
      unfold PolicySelector.proto at hne
      rw [hc] at hne
      exact hne rfl
    rw [maskPort_of_ne hne, maskPort_of_ne hne]
    constructor
    · rintro ⟨b, hb, hagree, hr⟩
      exact ⟨fun hc => absurd hc hulp, fun _ => ⟨b, hb, hr, (portsAgree_portProto hport).mp hagree⟩⟩
    · rintro ⟨-, h⟩
      obtain ⟨b, hb, hr, hsame⟩ := h hport
      exact ⟨b, hb, (portsAgree_portProto hport).mpr hsame, hr⟩
  · have hagree : ∀ b, portsAgree s b _ _ = true ↔ _ :=
      fun b => portsAgree_other (a := a) (b := b) (Bool.eq_false_iff.mpr hport) rfl
    constructor
    · rintro ⟨b, hb, hok, hr⟩
      exact ⟨(hagree b).mp hok, fun hc => absurd hc hport⟩
    · rintro ⟨hmh, -⟩
      exact ⟨a, ha, (hagree a).mpr hmh, rfl⟩

theorem ownPayload_length (next : UInt8) {tss : List Ts}
    (h : (encodeTss tss).length ≤ 0xFFFF - payloadHeaderSize) :
    (ownPayload next tss).length = payloadLength (ownPayload next tss)
      ∧ tsPayloadSize ≤ (ownPayload next tss).length := by
  have hlen : (ownPayload next tss).length = payloadHeaderSize + (encodeTss tss).length := by
    unfold ownPayload encodeTss payloadHeaderSize
    rw [List.length_append, List.length_append]
    show 8 + _ = 4 + (4 + _)
    omega
  have hfield : payloadLength (ownPayload next tss) = payloadHeaderSize + (encodeTss tss).length :=
    octets_value (by unfold payloadHeaderSize at h ⊢; omega)
  refine ⟨hlen.trans hfield.symm, ?_⟩
  rw [hlen]
  show 8 ≤ 4 + ([_, _, _, _] ++ _ : Bytes).length
  rw [List.length_append]
  show 8 ≤ 4 + (4 + _)
  omega

/-- the check takes what was written if its number fits an octet -/
theorem ownPayload_checked_iff {next : UInt8} {tss : List Ts}
    (h : (encodeTss tss).length ≤ 0xFFFF - payloadHeaderSize) :
    checkTsPayload (ownPayload next tss) = true ↔ tss.length ≤ 255 := by
  obtain ⟨hlen, hmin⟩ := ownPayload_length next h
  have hcount : (byteAt (ownPayload next tss) 4).toNat = tss.length % 256 := UInt8.toNat_ofNat'
  have hrest : slice (ownPayload next tss) 8 (payloadLength (ownPayload next tss) - 8) =
      (ownHead next tss ++ tss.flatMap encodeTs).drop (ownHead next tss).length := by
    unfold slice
    rw [← hlen, List.take_of_length_le (by rw [List.length_drop])]
    rfl
  unfold checkTsPayload
  rw [if_neg (by rw [← hlen]; exact Nat.not_lt_of_le hmin)]
  rw [hcount, hrest, checkTsLoop_encoded_iff]
  omega

/-- the comparison of a payload that the check took -/
theorem ownPayload_confirms {m : Memory} {side : TsSide} {next : UInt8}
    (hm : m.octets = ownPayload next (ownSelectors s (s.addrs side)))
    (hlen : (encodeTss (ownSelectors s (s.addrs side))).length ≤ 0xFFFF - payloadHeaderSize)
    (hcount : (ownSelectors s (s.addrs side)).length ≤ 255) :
    confirms (confirmSide m s side) =
      (ownSelectors s (s.addrs side)).all (selectorMatches s (s.addrs side)) := by
  generalize htss : ownSelectors s (s.addrs side) = tss at hm hlen hcount ⊢
  have hn : (byteAt m.octets 4).toNat = tss.length := by
    rw [hm]
    exact octet_value (by omega)
  have hread : (Walk.read m 4).Returns m.size (byteAt m.octets 4) := by
    refine Walk.Returns.read ?_
    have h := (ownPayload_length next hlen).2
    rw [← hm] at h
    exact Nat.lt_of_lt_of_le (by decide) h
  have hpre : tsPayloadSize = (ownHead next tss).length := rfl
  have hloop : checkTsLoop tss.length (m.octets.drop tsPayloadSize) = true := by
    rw [hm, hpre]
    exact checkTsLoop_encoded tss (ownHead next tss)
  have hfit : StridesFit m.octets s (s.addrs side) tss.length tsPayloadSize := by
    rw [hm, hpre]
    exact stridesFit_encoded s _ tss (ownHead next tss)
  obtain ⟨examined, hdone⟩ := confirmLoop_ok hloop hfit
  have hselectors : (declaredOffsets m.octets tss.length tsPayloadSize).filterMap (readTs m.octets) =
      tss := by
    rw [hm, hpre]
    exact declared_encoded tss (fun t ht => ownSelectors_fits (htss ▸ ht)) (ownHead next tss)
  unfold confirms confirmSide
  rw [hread.then_outcome, hn, hdone, hselectors]

/-- all selectors of a side match -/
theorem own_all_match_iff (hinet : ∀ addr ∈ l, addr.inet.isSome = true) (hne : l ≠ []) :
    (ownSelectors s l).all (selectorMatches s l) = true ↔ (0 ≤ s.proto ∧ s.proto ≤ 255)
      ∧ (s.upperLayerProtocol = 135 → firstPort s.src ≠ 0)
      ∧ (isPortProto s.proto = true → ∀ a ∈ l, ∃ b ∈ l, b.range = a.range ∧ SamePort a b) := by
  rw [List.all_eq_true]
  constructor
  · intro h
    have hall : ∀ a ∈ l, (0 ≤ s.proto ∧ s.proto ≤ 255)
        ∧ (s.upperLayerProtocol = 135 → firstPort s.src ≠ 0)
        ∧ (isPortProto s.proto = true → ∃ b ∈ l, b.range = a.range ∧ SamePort a b) := by
      intro a ha
      obtain ⟨ia, hia⟩ := Option.isSome_iff_exists.mp (hinet a ha)
      refine (own_matches_iff (s := s) hinet ha hia).mp (h _ (List.mem_filterMap.mpr ⟨a, ha, ?_⟩))
      rw [hia]
      rfl
    obtain ⟨a, ha⟩ := List.exists_mem_of_ne_nil l hne
    exact ⟨(hall a ha).1, (hall a ha).2.1, fun hport a ha => (hall a ha).2.2 hport⟩
  · rintro ⟨hproto, hmh, hports⟩ t ht
    obtain ⟨a, ha, hta⟩ := List.mem_filterMap.mp ht
    obtain ⟨ia, hia, rfl⟩ := Option.map_eq_some_iff.mp hta
    exact (own_matches_iff hinet ha hia).mpr ⟨hproto, hmh, fun hport => hports hport a ha⟩

end

/-- the check takes both payloads of a policy selector, and so does the comparison when they come
back unchanged -/
def OwnTsAccepted (s : PolicySelector) : Prop :=
  ∀ bodyI bodyR nextI nextR tsI tsR, constructTsI s = some bodyI → constructTsR s = some bodyR →
    withPayloadHeader nextI bodyI = some tsI → withPayloadHeader nextR bodyR = some tsR →
    checkTsPayload tsI = true ∧ checkTsPayload tsR = true
      ∧ ∀ mI mR : Memory, mI.octets = tsI → mR.octets = tsR → confirmTs mI mR s = .ok

theorem confirmTs_ok_iff {mI mR : Memory} {s : PolicySelector} : confirmTs mI mR s = .ok ↔
    confirms (confirmSide mI s .i) = true ∧ confirms (confirmSide mR s .r) = true := by
  unfold confirmTs
  split
  · next hi =>
    split
    · next hr => exact ⟨fun _ => ⟨hi, hr⟩, fun _ => rfl⟩
    · next hr => exact ⟨fun h => (nomatch h), fun h => absurd h.2 hr⟩
  · next hi => exact ⟨fun h => (nomatch h), fun h => absurd h.1 hi⟩

section
variable {s : PolicySelector} {side : TsSide}

theorem own_checked_iff (h : Buildable (s.addrs side)) (next : UInt8) :
    checkTsPayload (ownPayload next (ownSelectors s (s.addrs side))) = true ↔
      (s.addrs side).length ≤ 255 := by
  rw [ownPayload_checked_iff h.octets_le, ownSelectors_length h.inet]

/-- what the policy has to say for one side -/
theorem own_confirms_iff (h : Buildable (s.addrs side)) (hcount : (s.addrs side).length ≤ 255)
    {next : UInt8} {m : Memory} (hm : m.octets = ownPayload next (ownSelectors s (s.addrs side))) :
    confirms (confirmSide m s side) = true ↔ (0 ≤ s.proto ∧ s.proto ≤ 255)
      ∧ (s.upperLayerProtocol = 135 → firstPort s.src ≠ 0)
      ∧ (isPortProto s.proto = true → ∀ a ∈ s.addrs side,
        ∃ b ∈ s.addrs side, b.range = a.range ∧ SamePort a b) := by
  rw [← ownSelectors_length (s := s) h.inet] at hcount
  rw [ownPayload_confirms hm h.octets_le hcount, own_all_match_iff h.inet h.nonempty]

/-- the payload as it comes back -/
def Buildable.memory (h : Buildable (s.addrs side)) (next : UInt8) : Memory where
  octets := ownPayload next (ownSelectors s (s.addrs side))
  beyond := fun _ => 0
  octets_length := by
    rw [(ownPayload_length next h.octets_le).1]
    exact Nat.lt_of_lt_of_le (be16_lt _ 2) (by decide)

end

/-- both payloads come through exactly if the fields hold what the policy says, and there is no
Mobility Header without a type -/
theorem own_ts_accepted_iff (s : PolicySelector) :
    OwnTsAccepted s ↔ (Buildable s.src → Buildable s.dst → OwnTsFit s) := by
  constructor
  · intro h hsrc hdst
    have hi : Buildable (s.addrs .i) := hsrc
    have hr : Buildable (s.addrs .r) := hdst
    obtain ⟨bodyI, hbodyI, htsI⟩ := (own_payload_iff .i).mpr ⟨hi, rfl⟩
    obtain ⟨bodyR, hbodyR, htsR⟩ := (own_payload_iff .r).mpr ⟨hr, rfl⟩
    obtain ⟨hcheckI, hcheckR, hconfirm⟩ := h bodyI bodyR 0 0 _ _ hbodyI hbodyR htsI htsR
    have hcountI := (own_checked_iff hi 0).mp hcheckI
    have hcountR := (own_checked_iff hr 0).mp hcheckR
    obtain ⟨hokI, hokR⟩ := confirmTs_ok_iff.mp (hconfirm (hi.memory 0) (hr.memory 0) rfl rfl)
    obtain ⟨hproto, hmh, hportsI⟩ := (own_confirms_iff hi hcountI rfl).mp hokI
    obtain ⟨-, -, hportsR⟩ := (own_confirms_iff hr hcountR rfl).mp hokR
    refine ⟨hproto, ?_, hmh, ?_⟩
    · rintro (_ | _)
      · exact hcountI
      · exact hcountR
    · rintro hport (_ | _)
      · exact hportsI hport
      · exact hportsR hport
  · intro h bodyI bodyR nextI nextR tsI tsR hbodyI hbodyR htsI htsR
    obtain ⟨hi, rfl⟩ := (own_payload_iff .i).mp ⟨bodyI, hbodyI, htsI⟩
    obtain ⟨hr, rfl⟩ := (own_payload_iff .r).mp ⟨bodyR, hbodyR, htsR⟩
    have hfit := h hi hr
    refine ⟨(own_checked_iff hi nextI).mpr (hfit.count .i),
      (own_checked_iff hr nextR).mpr (hfit.count .r), fun mI mR hmI hmR => ?_⟩
    refine confirmTs_ok_iff.mpr ⟨?_, ?_⟩
    · exact (own_confirms_iff hi (hfit.count .i) hmI).mpr
        ⟨hfit.proto, hfit.mobility, fun hport => hfit.ports hport .i⟩
    · exact (own_confirms_iff hr (hfit.count .r) hmR).mpr
        ⟨hfit.proto, hfit.mobility, fun hport => hfit.ports hport .r⟩

/-- every Mobility Header message between two hosts -/
def anyMobility : PolicySelector where
  src := [⟨some ⟨.inet, [10, 0, 0, 4], rfl⟩, 0, 32⟩]
  dst := [⟨some ⟨.inet, [10, 0, 0, 5], rfl⟩, 0, 32⟩]
  upperLayerProtocol := 135

/-- the check takes the payloads, with the ports 0 to 0, and the comparison does not -/
theorem mobility_any_refused : ¬ OwnTsAccepted anyMobility := by
  intro h
  have htsI : withPayloadHeader 45 [1, 0, 0, 0, 7, 135, 0, 16, 0, 0, 0, 0, 10, 0, 0, 4, 10, 0, 0, 4] =
      some [45, 0, 0, 24, 1, 0, 0, 0, 7, 135, 0, 16, 0, 0, 0, 0, 10, 0, 0, 4, 10, 0, 0, 4] := by decide
  have htsR : withPayloadHeader 0 [1, 0, 0, 0, 7, 135, 0, 16, 0, 0, 0, 0, 10, 0, 0, 5, 10, 0, 0, 5] =
      some [0, 0, 0, 24, 1, 0, 0, 0, 7, 135, 0, 16, 0, 0, 0, 0, 10, 0, 0, 5, 10, 0, 0, 5] := by decide
  have hok := (h _ _ 45 0 _ _ (by decide) (by decide) htsI htsR).2.2
    ⟨_, fun _ => 0, by decide⟩ ⟨_, fun _ => 0, by decide⟩ rfl rfl
  revert hok
  decide

end Ikev2
