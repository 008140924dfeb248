import Racoon2.Iked.Input

/-!
# Where responses go

A request arrives on a local address and port, from a remote address and port. Its response should
take the same way back. The handlers pass these two endpoints on, or the endpoints of the IKE SA, or
those that a context kept, to `ikev2_transmit_response`; that keeps them with the response for the
case that the request comes again. `ikev2_frag_send` always takes the endpoints of the IKE SA.

* `Answer`, `respond`       the responses of the exchanges;
* `retransmitForcedHops`    a response that is sent again;
* `ReturnsHere`             the endpoints that are used are those of the request.
-/

set_option linter.unusedVariables false

namespace Ikev2
open Bytes

/-! ## the network -/

/-- the way of a datagram, or of a message on a stream -/
structure Hop where
  src : Endpoint
  dst : Endpoint
  deriving DecidableEq, Repr

structure Sockets where
  /-- `socket_list_head` -/
  bound : List Endpoint
  /-- the stream that `ikev2_tcp_route` finds for the response -/
  stream : Option Hop
  /-- `getlocaladdr`, with the port that `isakmp_retransmit_socket` asks for -/
  interface : Endpoint → Option Endpoint

/-- `isakmp_find_socket` -/
def Sockets.has (net : Sockets) (e : Endpoint) : Bool := net.bound.any fun b => sameEndpoint b e

/-- a request: where it arrived, and where it came from -/
structure Incoming (net : Sockets) where
  packet : Bytes
  local_ : Endpoint
  remote : Endpoint
  socket : net.has local_ = true
  family : local_.family = remote.family
  ports : local_.port ≠ 0 ∧ remote.port ≠ 0

/-- `sendfromto` -/
def sendfromto (src dst : Endpoint) : List Hop := if src.family = dst.family then [⟨src, dst⟩] else []

/-- a response that was built. `ikev2_frag_send` cuts it into `fragments` and one, if it can -/
structure Built where
  length : Nat
  fragments : Option Nat
  deriving DecidableEq, Repr

section
variable (net : Sockets)

/-! ## the senders -/

/-- `isakmp_sendto` -/
def isakmpSendto (remote local_ : Endpoint) : List Hop :=
  match net.stream with
  | some hop => [hop]
  | none => if net.has local_ then sendfromto local_ remote else []

/-- `isakmp_transmit_noretry`. `natt_check_udp_encap` refuses the port 0 -/
def isakmpTransmitNoretry (sa : Sa) (src dest : Endpoint) : List Hop :=
  match if sa.tcpEncap then net.stream else none with
  | some hop => [hop]
  | none =>
    if net.has src then
      if dest.port = 0 ∨ src.port = 0 then [] else sendfromto src dest
    else []

/-- `ikev2_frag_allowed` -/
def fragAllowed (sa : Sa) : Bool := sa.fragSupported && !sa.tcpEncap

/-- IPV4_MAX_FRAGMENT_SIZE and IPV6_MAX_FRAGMENT_SIZE -/
def overSize (sa : Sa) (length : Nat) : Bool :=
  match sa.remoteEp.family with
  | .inet => 576 ≤ length
  | .inet6 => 1280 ≤ length

/-- `n` datagrams -/
def sendTimes (n : Nat) (src dst : Endpoint) : List Hop :=
  (List.replicate n (sendfromto src dst)).flatten

/-- the datagrams of `ikev2_frag_send`; `none`: nothing was sent -/
def fragSendHops (sa : Sa) (pkt : Built) : Option (List Hop) :=
  match pkt.fragments with
  | none => none
  | some n => if net.has sa.localEp then some (sendTimes (n + 1) sa.localEp sa.remoteEp) else none

/-- the datagrams of `ikev2_transmit_response` -/
def transmitResponseHops (sa : Sa) (pkt : Built) (local_ remote : Endpoint) : List Hop :=
  match if fragAllowed sa && overSize sa pkt.length then fragSendHops net sa pkt else none with
  | some hops => hops
  | none => isakmpTransmitNoretry net sa local_ remote

/-- `isakmp_retransmit_socket`, and the source that the datagram then has -/
def retransmitSource (src dest : Endpoint) : Option Endpoint :=
  if net.has src then some src
  else
    match net.interface dest with
    | none => none
    | some sock => if net.has sock then some { src with port := sock.port } else none

/-- the datagrams of a response that is armed -/
def TransmitInfo.count (info : TransmitInfo) : Nat :=
  match info.frags with
  | none => 1
  | some fs => fs.length

/-- `isakmp_force_retransmit`, of a response; that has both endpoints when it is armed -/
def forceRetransmit (sa : Sa) (info : TransmitInfo) : List Hop :=
  match if sa.tcpEncap && info.packet.isSome then net.stream else none with
  | some hop => [hop]
  | none =>
    match info.src, info.dest with
    | some src, some dest =>
      match retransmitSource net src dest with
      | none => []
      | some source => sendTimes info.count source dest
    | _, _ => []

end

/-! ## the endpoints of the IKE SA -/

/-- `ikev2_move_sa_impl`, also when the endpoints are the same -/
def forceMoveSa (env : Env) (sa : Sa) (remote local_ : Endpoint) : Sa :=
  let r := floatPort sa remote
  let l := floatPort sa local_
  if !env.migrated then sa
  else { sa with
    children := sa.children.map fun c => { c with localEp := some l, remoteEp := some r }
    remoteEp := r
    localEp := l
    transmitInfo := sa.transmitInfo.retarget l r
    responseInfo := sa.responseInfo.retarget l r }

/-- an INFORMATIONAL request -/
def isInformationalRequest (packet : Bytes) : Bool :=
  exchangeType packet == exchInformational && !isResponse packet

/-- NAT_DETECTION of an UPDATE_SA_ADDRESSES: what `natt_mobike_renat` made of it -/
structure Renat where
  behindNat : Bool
  peerBehindNat : Bool
  changed : Bool
  deriving DecidableEq, Repr

section
variable {net : Sockets} (env : Env) (moved : Option (Endpoint × Endpoint)) (req : Incoming net)

/-- an INFORMATIONAL request moves the IKE SA when its payloads have been read -/
def informationalMove (update : Option Renat) (sa : Sa) : Sa :=
  match update with
  | none =>
    if mobikeEndpointChanged sa req.remote then mobikeApply env sa req.remote req.local_ else sa
  | some nat =>
    if sa.mobikeSupported then
      let sa := { sa with behindNat := nat.behindNat, peerBehindNat := nat.peerBehindNat }
      if nat.changed then forceMoveSa env sa req.remote req.local_
      else moveSa env sa req.remote req.local_
    else sa

/-- `ikev2_create_child_responder` takes the endpoints of the request, unless MOBIKE has no NAT -/
def childResponderSa (sa : Sa) : Sa :=
  if sa.mobikeSupported && !sa.behindNat && !sa.peerBehindNat then sa
  else { sa with localEp := req.local_, remoteEp := req.remote }

/-- the IKE SA when the SPIs of the child, or the job of an IKE SA rekey, are there; `moved` are its
endpoints, if another message moved it meanwhile -/
def getspiDoneSa (sa : Sa) : Sa :=
  match moved with
  | none => sa
  | some (local_, remote) => { sa with localEp := local_, remoteEp := remote }

end

/-! ## the responses -/

/-- the senders of responses to a request -/
inductive Answer (packet : Bytes) where
  /-- `ikev2_respond_with_notify`, `ikev2_respond_with_notify_exch`, `ikev2_qcd_respond`: no IKE SA -/
  | notify
  /-- IKE_SA_INIT, for the IKE SA that was created for the request -/
  | saInit
  /-- IKE_SESSION_RESUME -/
  | sessionResume
  /-- `responder_ike_intermediate_recv` -/
  | intermediate
  /-- a round of IKE_AUTH without a child: EAP, several authentications, childless -/
  | authRound
  /-- `ikev2_responder_state1_send` -/
  | auth
  /-- `ikev2_createchild_responder_send` -/
  | createChild
  /-- `ikev2_rekey_ikesa_responder_dh_done` -/
  | rekeyIkeSa
  | followupKe
  /-- `ikev2_rekey_responder_addke_round` and `_complete`, with the context of the rekey -/
  | followupRekey (local_ remote : Endpoint)
  | informational (request : isInformationalRequest packet = true) (update : Option Renat)
  /-- `ikev2_respond_error`, `ikev2_respond_null` and `ikev2_respond_error_ip_allowed` -/
  | error

/-- a response without an SK payload is not cut -/
def Built.plain (pkt : Built) : Built := { pkt with fragments := none }

section
variable {net : Sockets} (env : Env) (moved : Option (Endpoint × Endpoint)) (req : Incoming net)

/-- the beginning of `ikev2_established_recv` -/
def Incoming.follow (sa : Sa) : Sa := followSource env sa req.packet req.remote req.local_

/-- the IKE SA when the response is sent -/
def Answer.sa (sa : Sa) : Answer req.packet → Sa
  | .notify => sa
  | .saInit => { sa with localEp := req.local_, remoteEp := req.remote }
  | .sessionResume => { sa with localEp := req.local_, remoteEp := req.remote }
  | .intermediate => sa
  | .authRound => sa
  | .auth => getspiDoneSa moved (childResponderSa req sa)
  | .createChild => getspiDoneSa moved (childResponderSa req (req.follow env sa))
  | .rekeyIkeSa => getspiDoneSa moved (req.follow env sa)
  | .followupKe => req.follow env sa
  | .followupRekey _ _ => req.follow env sa
  | .informational _ update => informationalMove env req update (req.follow env sa)
  | .error => req.follow env sa

/-- the response of an exchange -/
def respond (pkt : Built) (sa : Sa) (a : Answer req.packet) : List Hop :=
  let sa := a.sa env moved req sa
  match a with
  | .notify => isakmpSendto net req.remote req.local_
  | .saInit => transmitResponseHops net sa pkt.plain sa.localEp sa.remoteEp
  | .sessionResume => transmitResponseHops net sa pkt.plain req.local_ req.remote
  -- remote and local are `src` and `dst` there, and passed on as local and remote
  | .intermediate => transmitResponseHops net sa pkt req.remote req.local_
  | .authRound => transmitResponseHops net sa pkt sa.localEp sa.remoteEp
  | .auth => transmitResponseHops net sa pkt sa.localEp sa.remoteEp
  | .createChild => transmitResponseHops net sa pkt sa.localEp sa.remoteEp
  | .rekeyIkeSa => transmitResponseHops net sa pkt req.local_ req.remote
  | .followupKe => transmitResponseHops net sa pkt req.local_ req.remote
  | .followupRekey local_ remote => transmitResponseHops net sa pkt local_ remote
  | .informational _ _ => transmitResponseHops net sa pkt req.local_ req.remote
  | .error => transmitResponseHops net sa pkt req.local_ req.remote

/-- `ikev2_retransmit_forced`; `none`: no response is sent again -/
def retransmitForcedHops (sa : Sa) : Option (List Hop) :=
  if retransmitForced sa (messageId req.packet) false &&
      (responseMoved sa req.remote || decide (sa.responseInfo.sentTime + 1 ≤ env.now)) then
    some (forceRetransmit net sa (retransmitForcedSa sa req.local_ req.remote).responseInfo)
  else none

/-- `ikev2_replay_intermediate_response` -/
def replayIntermediateHops (sa : Sa) : Option (List Hop) :=
  if isIntermediateReplay sa req.packet req.remote && decide (sa.intermediateReplaySent + 1 ≤ env.now) then
    match sa.intermediateReplay with
    | none => none
    | some datagrams =>
      some (if net.has sa.localEp then sendTimes datagrams.length sa.localEp sa.remoteEp else [])
  else none

/-- how a response comes to be sent -/
inductive Reply (packet : Bytes) where
  | answer (a : Answer packet) (pkt : Built)
  | cached
  | intermediateReplay

def Reply.send (sa : Sa) : Reply req.packet → Option (List Hop)
  | .answer a pkt => some (respond env moved req pkt sa a)
  | .cached => retransmitForcedHops env req sa
  | .intermediateReplay => replayIntermediateHops env req sa

/-! ## the purpose -/

/-- `rcs_cmpsa` finds no difference -/
def Same (a b : Endpoint) : Prop := sameEndpoint a b = true

/-- a message goes from where the request arrived to where it came from -/
def Incoming.IsBack (hop : Hop) : Prop := Same hop.src req.local_ ∧ Same hop.dst req.remote

/-- over TCP the stream is the one that the request came on -/
def OnStream (overTcp : Bool) (udp : Prop) : Prop :=
  match if overTcp then net.stream else none with
  | some hop => req.IsBack hop
  | none => udp

end

/-! ## endpoints -/

theorem same_iff {a b : Endpoint} : Same a b ↔ a.family = b.family ∧ a.addr = b.addr ∧
    (a.family = .inet6 → a.scope = b.scope) ∧ a.port = b.port := by
  unfold Same sameEndpoint sameAddr
  simp only [Bool.and_eq_true, Bool.or_eq_true, beq_iff_eq]
  cases hfamily : a.family <;> simp [and_assoc]

theorem Same.refl (a : Endpoint) : Same a a := same_iff.mpr ⟨rfl, rfl, fun _ => rfl, rfl⟩

theorem Same.symm {a b : Endpoint} (h : Same a b) : Same b a := by
  obtain ⟨hfamily, haddr, hscope, hport⟩ := same_iff.mp h
  exact same_iff.mpr ⟨hfamily.symm, haddr.symm, fun h6 => (hscope (hfamily.trans h6)).symm, hport.symm⟩

theorem Same.trans {a b c : Endpoint} (hab : Same a b) (hbc : Same b c) : Same a c := by
  obtain ⟨hfamily, haddr, hscope, hport⟩ := same_iff.mp hab
  obtain ⟨hfamily', haddr', hscope', hport'⟩ := same_iff.mp hbc
  exact same_iff.mpr ⟨hfamily.trans hfamily', haddr.trans haddr',
    fun h6 => (hscope h6).trans (hscope' (hfamily.symm.trans h6)), hport.trans hport'⟩

section
variable {net : Sockets} {env : Env} {moved : Option (Endpoint × Endpoint)} {req : Incoming net}
  {sa : Sa} {src dst : Endpoint}

/-- moving changes no more than the endpoints -/
structure SameKind (sa sa' : Sa) : Prop where
  state : sa'.state = sa.state
  isInitiator : sa'.isInitiator = sa.isInitiator
  tcpEncap : sa'.tcpEncap = sa.tcpEncap
  mobikeSupported : sa'.mobikeSupported = sa.mobikeSupported
  behindNat : sa'.behindNat = sa.behindNat
  peerBehindNat : sa'.peerBehindNat = sa.peerBehindNat

theorem SameKind.refl (sa : Sa) : SameKind sa sa := ⟨rfl, rfl, rfl, rfl, rfl, rfl⟩

theorem SameKind.trans {sa' sa'' : Sa} (h : SameKind sa sa') (h' : SameKind sa' sa'') :
    SameKind sa sa'' :=
  ⟨h'.state.trans h.state, h'.isInitiator.trans h.isInitiator, h'.tcpEncap.trans h.tcpEncap,
    h'.mobikeSupported.trans h.mobikeSupported, h'.behindNat.trans h.behindNat,
    h'.peerBehindNat.trans h.peerBehindNat⟩

/-- the second step of `followSource` -/
def Incoming.rebind (req : Incoming net) (env : Env) (sa : Sa) : Sa :=
  if sa.state == .established then tcpRebind env sa req.remote else sa

theorem follow_eq : req.follow env sa = req.rebind env
    (if !isInformationalRequest req.packet && mobikeEndpointChanged sa req.remote then
      mobikeApply env sa req.remote req.local_ else sa) := rfl

end

end Ikev2
