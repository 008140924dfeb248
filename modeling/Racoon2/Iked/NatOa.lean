import Racoon2.Iked.TrafficSelector

/-!
# NAT original addresses

A NAT changes the addresses of a transport-mode packet, but not the checksum inside.  The kernel can
mend the checksum when it has the addresses that the sender used; `ikev2_addr_substitute` takes them
from the traffic selectors it receives, before it writes the addresses of the IKE SA over them, and
`ikev2_sadb_natt_oa` hands them to the kernel with the two SAs of the child.

TSi and TSr name the initiator and the responder of the child's exchange; `oa_i` and `oa_r` of the
IKE SA are read back as those of the initiator and the responder of the IKE SA.

* `addrSubstituteOa`      the substitution, with what it stores;
* `sadbNattOa`            what the kernel gets;
* `natoa_are_received_selectors`   where the two roles agree.
-/

set_option linter.unusedVariables false

namespace Ikev2
open Bytes

/-! ## the substitution -/

/-- `ikev2_ts_range_contains`, of a selector of the family -/
def tsRangeContains (ts : Ts) (sub : SockAddr) : Bool := memLe ts.start sub.addr && memLe sub.addr ts.stop

theorem substitute_length {ts : Ts} {sub : SockAddr} (h : ts.family = sub.family) :
    sub.addr.length = ts.family.size := sub.addr_length.trans (congrArg Family.size h.symm)

/-- `ikev2_ts_substitute_ex`; the initiator narrows a range that has the address -/
def tsSubstituteEx (allowRange : Bool) (sub : SockAddr) (ts : Ts) : Option Ts :=
  if h : ts.family = sub.family then
    if ts.start = sub.addr ∧ (allowRange = true → ts.stop = sub.addr) then some ts
    else if ts.start ≠ ts.stop ∧ ¬ (allowRange = true ∧ tsRangeContains ts sub = true) then none
    else some { ts with
      start := sub.addr, stop := sub.addr
      start_length := substitute_length h
      stop_length := substitute_length h }
  else some ts

/-- `ikev2_ts_payload_substitute` -/
def tsPayloadSubstituteEx (allowRange : Bool) (sub : SockAddr) (tss : List Ts) : Option (List Ts) :=
  if tss = [] then none else tss.mapM (tsSubstituteEx allowRange sub)

/-- `ikev2_ts_payload_original_addr`: a range has no original -/
def tsPayloadOriginalAddr : List Ts → Option SockAddr
  | [] => none
  | ts :: _ => if ts.start = ts.stop then some ⟨ts.family, ts.start, 0, ts.start_length⟩ else none

/-- `struct ikev2_sa` -/
structure NatOaSa where
  isInitiator : Bool
  behindNat : Bool
  peerBehindNat : Bool
  localAddr : SockAddr
  remoteAddr : SockAddr
  oaI : Option SockAddr
  oaR : Option SockAddr
  deriving DecidableEq, Repr

/-- `struct ikev2_child_sa`: the role in its exchange; the mode of the policy, for the initiator of
the exchange, or USE_TRANSPORT_MODE -/
structure NatOaChild where
  isInitiator : Bool
  transport : Bool
  deriving DecidableEq, Repr

section
variable (sa : NatOaSa) (child : NatOaChild)

/-- the initiator of the exchange is behind a NAT, and the responder -/
def initNated : Bool := if child.isInitiator then sa.behindNat else sa.peerBehindNat
def respNated : Bool := if child.isInitiator then sa.peerBehindNat else sa.behindNat

def NatOaSa.storeI (oa : Option SockAddr) : NatOaSa := { sa with oaI := sa.oaI.or oa }
def NatOaSa.storeR (oa : Option SockAddr) : NatOaSa := { sa with oaR := sa.oaR.or oa }

/-- `ikev2_addr_substitute`; no selectors: -1 -/
def addrSubstituteOa (tsI tsR : List Ts) : NatOaSa × Option (List Ts × List Ts) :=
  if !sa.behindNat && !sa.peerBehindNat then (sa, some (tsI, tsR))
  else if !child.transport then (sa, some (tsI, tsR))
  else
    let subI := if child.isInitiator then sa.localAddr else sa.remoteAddr
    let subR := if child.isInitiator then sa.remoteAddr else sa.localAddr
    let sa₁ := if initNated sa child then sa.storeI (tsPayloadOriginalAddr tsI) else sa
    match if initNated sa child then tsPayloadSubstituteEx child.isInitiator subI tsI else some tsI with
    | none => (sa₁, none)
    | some tsI' =>
      let sa₂ := if respNated sa child then sa₁.storeR (tsPayloadOriginalAddr tsR) else sa₁
      match if respNated sa child then tsPayloadSubstituteEx child.isInitiator subR tsR else some tsR with
      | none => (sa₂, none)
      | some tsR' => (sa₂, some (tsI', tsR'))

/-! ## the kernel -/

/-- `sa_natoa_src` and `sa_natoa_dst` -/
structure Natoa where
  src : Option SockAddr
  dst : Option SockAddr
  deriving DecidableEq, Repr

/-- `ikev2_sadb_natt_oa` -/
def sadbNattOa (outbound : Bool) : Natoa :=
  let myOa := if sa.isInitiator then sa.oaI else sa.oaR
  let peerOa := if sa.isInitiator then sa.oaR else sa.oaI
  if outbound then ⟨myOa, peerOa⟩ else ⟨peerOa, myOa⟩

/-! ## the originals -/

/-- the original of a side: the one address of the selectors that name it, if it is behind a NAT -/
def nattOriginal (nated : Bool) (tss : List Ts) : Option SockAddr :=
  if nated then tsPayloadOriginalAddr tss else none

/-- of the selectors that name us, and of those that name the peer -/
def ourOriginal (tsI tsR : List Ts) : Option SockAddr :=
  nattOriginal sa.behindNat (if child.isInitiator then tsI else tsR)
def peerOriginal (tsI tsR : List Ts) : Option SockAddr :=
  nattOriginal sa.peerBehindNat (if child.isInitiator then tsR else tsI)

/-- what the kernel gets for the two SAs of the child is `ours` and `peers` -/
def PassedToKernel (sa : NatOaSa) (ours peers : Option SockAddr) : Prop :=
  sadbNattOa sa true = ⟨ours, peers⟩ ∧ sadbNattOa sa false = ⟨peers, ours⟩

end

section
variable {sa sa' : NatOaSa} {child : NatOaChild} {tsI tsR : List Ts} {r : List Ts × List Ts}

/-- the responder does not narrow ranges -/
theorem tsSubstituteEx_false (sub : SockAddr) (ts : Ts) :
    tsSubstituteEx false sub ts = tsSubstitute sub ts := by
  unfold tsSubstituteEx tsSubstitute
  by_cases hf : ts.family = sub.family
  · simp only [hf, dite_true, Bool.false_eq_true, false_and, not_false_eq_true, and_true,
      false_implies]
  · rw [dif_neg hf, dif_neg hf]

theorem tsPayloadSubstituteEx_false (sub : SockAddr) (tss : List Ts) :
    tsPayloadSubstituteEx false sub tss = tsPayloadSubstitute sub tss := by
  have hsame : tsSubstituteEx false sub = tsSubstitute sub := funext (tsSubstituteEx_false sub)
  unfold tsPayloadSubstituteEx tsPayloadSubstitute
  rw [hsame]

/-- for a responder the selectors are those of the first lookup of the narrowing -/
theorem addrSubstituteOa_responder (r : TsRequest) (hnatt : r.natt = true)
    (hbehind : sa.behindNat = r.behindNat) (hpeer : sa.peerBehindNat = r.peerBehindNat)
    (hlocal : sa.localAddr = r.localAddr) (hremote : sa.remoteAddr = r.remoteAddr) :
    (addrSubstituteOa sa ⟨false, r.useTransport⟩ r.tsI r.tsR).2 = r.seen := by
  unfold addrSubstituteOa TsRequest.seen TsRequest.doesSubst addrSubstitute initNated respNated
  rw [hbehind, hpeer, hlocal, hremote, hnatt]
  simp only [tsPayloadSubstituteEx_false, Bool.false_eq_true, if_false, Bool.true_and]
  cases r.useTransport with
  | false => cases r.behindNat <;> cases r.peerBehindNat <;> rfl
  | true =>
    cases hbn : r.behindNat with
    | false =>
      cases hpn : r.peerBehindNat with
      | false => rfl
      | true => cases tsPayloadSubstitute r.remoteAddr r.tsI <;> rfl
    | true =>
      cases hpn : r.peerBehindNat with
      | false => cases tsPayloadSubstitute r.localAddr r.tsR <;> rfl
      | true =>
        cases tsPayloadSubstitute r.remoteAddr r.tsI with
        | none => rfl
        | some tsI => cases tsPayloadSubstitute r.localAddr r.tsR <;> rfl

/-- what is stored, by the roles in the exchange -/
theorem addrSubstituteOa_stores (hnat : (sa.behindNat || sa.peerBehindNat) = true)
    (htransport : child.transport = true) (h : addrSubstituteOa sa child tsI tsR = (sa', some r)) :
    sa'.isInitiator = sa.isInitiator ∧
      sa'.oaI = sa.oaI.or (nattOriginal (initNated sa child) tsI) ∧
      sa'.oaR = sa.oaR.or (nattOriginal (respNated sa child) tsR) := by
  unfold addrSubstituteOa at h
  have hsome : ¬ (!sa.behindNat && !sa.peerBehindNat) = true := by
    rw [← Bool.not_or, hnat]
    decide
  rw [if_neg hsome, if_neg (by simp [htransport])] at h
  simp only at h
  split at h
  · cases h
  · split at h
    · cases h
    · cases h
      unfold nattOriginal
      cases initNated sa child <;> cases respNated sa child <;>
        simp [NatOaSa.storeI, NatOaSa.storeR]

theorem or_original {a b : Option SockAddr} (h : a = none ∨ a = b) : a.or b = b := by
  rcases h with rfl | rfl
  · rfl
  · exact Option.or_self

/-- the same, read by the roles in the IKE SA -/
theorem passedToKernel_of_roles (hinit : sa'.isInitiator = sa.isInitiator) {ours peers : Option SockAddr}
    (hours : (if sa.isInitiator then sa'.oaI else sa'.oaR) = ours)
    (hpeers : (if sa.isInitiator then sa'.oaR else sa'.oaI) = peers) :
    PassedToKernel sa' ours peers := by
  unfold PassedToKernel sadbNattOa
  rw [hinit, hours, hpeers]
  exact ⟨rfl, rfl⟩

/-- where the other peer started the exchange, and nothing is stored yet, the two are exchanged -/
theorem natoa_exchanged (hnat : (sa.behindNat || sa.peerBehindNat) = true)
    (htransport : child.transport = true) (hrole : child.isInitiator = !sa.isInitiator)
    (hi : sa.oaI = none) (hr : sa.oaR = none) (h : addrSubstituteOa sa child tsI tsR = (sa', some r)) :
    PassedToKernel sa' (peerOriginal sa child tsI tsR) (ourOriginal sa child tsI tsR) := by
  obtain ⟨hinit, hi', hr'⟩ := addrSubstituteOa_stores hnat htransport h
  rw [hi, Option.none_or] at hi'
  rw [hr, Option.none_or] at hr'
  apply passedToKernel_of_roles hinit
  · rw [hi', hr']
    unfold peerOriginal initNated respNated
    rw [hrole]
    cases sa.isInitiator <;> rfl
  · rw [hi', hr']
    unfold ourOriginal initNated respNated
    rw [hrole]
    cases sa.isInitiator <;> rfl

/-- when the peer that started the IKE SA started the exchange, and no other originals are stored, the
kernel gets the originals of the selectors that name us and of those that name the peer -/
theorem natoa_are_received_selectors (sa sa' : NatOaSa) (child : NatOaChild) (tsI tsR : List Ts)
    (r : List Ts × List Ts) (hnat : (sa.behindNat || sa.peerBehindNat) = true)
    (htransport : child.transport = true) (hrole : child.isInitiator = sa.isInitiator)
    (hours : (if sa.isInitiator then sa.oaI else sa.oaR) = none ∨
      (if sa.isInitiator then sa.oaI else sa.oaR) = ourOriginal sa child tsI tsR)
    (hpeers : (if sa.isInitiator then sa.oaR else sa.oaI) = none ∨
      (if sa.isInitiator then sa.oaR else sa.oaI) = peerOriginal sa child tsI tsR)
    (h : addrSubstituteOa sa child tsI tsR = (sa', some r)) :
    PassedToKernel sa' (ourOriginal sa child tsI tsR) (peerOriginal sa child tsI tsR) := by
  obtain ⟨hinit, hi, hr⟩ := addrSubstituteOa_stores hnat htransport h
  have hours' := or_original hours
  have hpeers' := or_original hpeers
  apply passedToKernel_of_roles hinit
  · rw [hi, hr, ← hours']
    unfold ourOriginal initNated respNated
    rw [hrole]
    cases sa.isInitiator <;> rfl
  · rw [hi, hr, ← hpeers']
    unfold peerOriginal initNated respNated
    rw [hrole]
    cases sa.isInitiator <;> rfl

end

theorem hostAddr_length (a b c d : UInt8) : [a, b, c, d].length = Family.inet.size := rfl

/-- a selector for one IPv4 address -/
def hostTs (a b c d : UInt8) : Ts :=
  ⟨.inet, 0, 0, 65535, [a, b, c, d], [a, b, c, d], hostAddr_length a b c d, hostAddr_length a b c d⟩

def hostAddr (a b c d : UInt8) : SockAddr := ⟨.inet, [a, b, c, d], 0, hostAddr_length a b c d⟩

/-- we are 10.0.0.2, behind a NAT as 203.0.113.1, and started both the IKE SA and the child -/
def sampleOaSa : NatOaSa :=
  ⟨true, true, false, hostAddr 10 0 0 2, hostAddr 198 51 100 7, none, none⟩

/-- the IKE SA when the response was read -/
def sampleOaStored : NatOaSa :=
  ⟨true, true, false, hostAddr 10 0 0 2, hostAddr 198 51 100 7, some (hostAddr 203 0 113 1), none⟩

theorem natoa_are_received_selectors_sample :
    addrSubstituteOa sampleOaSa ⟨true, true⟩ [hostTs 203 0 113 1] [hostTs 198 51 100 7] =
        (sampleOaStored, some ([hostTs 10 0 0 2], [hostTs 198 51 100 7])) ∧
      PassedToKernel sampleOaStored (some (hostAddr 203 0 113 1)) none :=
  ⟨by decide, natoa_are_received_selectors sampleOaSa sampleOaStored ⟨true, true⟩
    [hostTs 203 0 113 1] [hostTs 198 51 100 7] ([hostTs 10 0 0 2], [hostTs 198 51 100 7]) rfl rfl rfl
    (.inl rfl) (.inl rfl) (by decide)⟩

/-- the address that goes to the kernel as ours is the one the peer sees, not our own -/
theorem natoa_not_our_own_address :
    ¬ ∀ a, (sadbNattOa (addrSubstituteOa sampleOaSa ⟨true, true⟩ [hostTs 203 0 113 1]
        [hostTs 198 51 100 7]).1 true).src = some a → a.addr = sampleOaSa.localAddr.addr := by
  intro h
  have haddr := h (hostAddr 203 0 113 1) (by decide)
  revert haddr
  decide

end Ikev2
