import Racoon2.Lib.Run
import Racoon2.Iked.Sa

/-!
# The non-ESP marker

On port 4500 IKE shares the socket with ESP, and four zero octets in front of the IKE header tell them
apart.  `isakmp_transmit_noretry` writes them into the packet it sends, which is the one that is kept for
retransmission; a retransmission sends it as it is.  In between the SA may have moved to other ports, or
to a TCP stream, where there is no marker.

* `transmitNoretry`   a first copy;
* `isakmpResend`            `isakmp_retransmit` and `isakmp_force_retransmit`;
* `markerStep`              what happens to an SA;
* `MarkedSend.Right`              one marker on port 4500, none elsewhere;
* `MarkerFits`              the condition on a step;
* `MarkerInv`               the cached packets fit the endpoints they are kept for.
-/

set_option linter.unusedVariables false

namespace Ikev2
open Bytes

/-! ## packets -/

/-- a packet, with the markers in front of its message -/
structure Pkt where
  msg : Bytes
  markers : Nat
  deriving DecidableEq, Repr

def Pkt.octets (p : Pkt) : Bytes := List.replicate (4 * p.markers) 0 ++ p.msg

/-- `natt_set_non_esp_marker`, in place -/
def nattSetNonEspMarker (p : Pkt) : Pkt := { p with markers := p.markers + 1 }

/-- IKEV2_UDP_PORT_NATT, `isakmp_port` -/
def markerPort : Nat := 4500
def isakmpPort : Nat := 500

/-- a port of the two is 4500 -/
def has4500 (src dest : Endpoint) : Bool := src.port == markerPort || dest.port == markerPort

/-- `natt_check_udp_encap`; -1 is `none` -/
def nattCheckUdpEncap (remote localEnd : Endpoint) : Option Bool :=
  if remote.port = 0 ∨ localEnd.port = 0 then none else some (has4500 localEnd remote)

/-- what leaves -/
inductive MarkedSend where
  | udp (src dest : Endpoint) (pkt : Pkt)
  | tcp (pkt : Pkt)
  deriving DecidableEq, Repr

/-- a datagram has one marker on port 4500 and none elsewhere, a message on a stream has none -/
def MarkedSend.Right : MarkedSend → Prop
  | .udp src dest p => p.octets = if has4500 src dest then [0, 0, 0, 0] ++ p.msg else p.msg
  | .tcp p => p.octets = p.msg

/-! ## sending -/

/-- the socket a copy goes out on -/
inductive SocketUse where
  /-- `isakmp_find_socket(src)` -/
  | own
  /-- the one `isakmp_retransmit_socket` falls back to -/
  | fallback
  | missing
  deriving DecidableEq, Repr

/-- what a send finds -/
structure MarkerEnv where
  /-- `ikev2_tcp_route` finds a stream, if the SA may use one -/
  stream : Bool
  socket : SocketUse
  /-- `natt_set_non_esp_marker` gets its memory -/
  room : Bool
  deriving DecidableEq, Repr

/-- `isakmp_transmit_noretry`: the packet afterwards, and what leaves -/
def transmitNoretry (env : MarkerEnv) (tcpEncap : Bool) (p : Pkt) (src dest : Endpoint) : Pkt × List MarkedSend :=
  if tcpEncap && env.stream then (p, [.tcp p])
  else if env.socket ≠ .own then (p, [])
  else
    match nattCheckUdpEncap dest src with
    | none => (p, [])
    | some false => (p, [.udp src dest p])
    | some true =>
      if env.room then (nattSetNonEspMarker p, [.udp src dest (nattSetNonEspMarker p)]) else (p, [])

/-- `struct transmit_info` with something to send -/
structure TxInfo where
  src : Endpoint
  dest : Endpoint
  packet : Option Pkt
  frags : List Pkt
  /-- the packet was last set for a stream; nothing reads this -/
  overTcp : Bool
  deriving DecidableEq, Repr

/-- the address a datagram leaves from: an IPv6 socket sends from its own port -/
def sendSrc (socket : SocketUse) (src dest : Endpoint) : Endpoint :=
  if socket = .fallback ∧ src.family = .inet6 then
    { src with port := if dest.port = markerPort then markerPort else isakmpPort }
  else src

/-- `isakmp_retransmit` and `isakmp_force_retransmit`: what is cached leaves as it is -/
def isakmpResend (env : MarkerEnv) (tcpEncap : Bool) (info : TxInfo) : List MarkedSend :=
  match info.packet with
  | some p =>
    if tcpEncap && env.stream then [.tcp p]
    else if env.socket = .missing then []
    else if info.frags = [] then [.udp (sendSrc env.socket info.src info.dest) info.dest p]
    else info.frags.map (.udp (sendSrc env.socket info.src info.dest) info.dest)
  | none =>
    if env.socket = .missing then []
    else info.frags.map (.udp (sendSrc env.socket info.src info.dest) info.dest)

/-- `ikev2_frag_send`: the datagrams, with their marker -/
def markFrags (msgs : List Bytes) (src dest : Endpoint) : List Pkt :=
  msgs.map fun m =>
    if nattCheckUdpEncap dest src = some true then nattSetNonEspMarker ⟨m, 0⟩ else ⟨m, 0⟩

/-! ## an SA -/

/-- the gen-0 response of IKE_INTERMEDIATE -/
structure Gen0Cache where
  /-- `intermediate_replay`, kept without a marker -/
  msg : Bytes
  frags : List Pkt
  /-- the fragments were marked; nothing reads this -/
  marked : Bool
  deriving DecidableEq, Repr

structure MarkerSa where
  localEnd : Endpoint
  remote : Endpoint
  tcpEncap : Bool
  transmitInfo : Option TxInfo
  responseInfo : Option TxInfo
  replay : Option Gen0Cache
  sent : List MarkedSend
  deriving DecidableEq, Repr

/-- how `isakmp_schedule_retransmit` ends -/
inductive Arming where
  | armed
  /-- `rcs_sadup` fails: what was armed before stays -/
  | noCopies
  /-- `sched_new` fails: nothing is kept -/
  | noTimer
  deriving DecidableEq, Repr

def Arming.keep (old new : Option TxInfo) : Arming → Option TxInfo
  | .armed => new
  | .noCopies => old
  | .noTimer => none

/-- what happens to an SA -/
inductive MarkerStep where
  /-- `ikev2_transmit`, with the messages of the fragments if it sends fragments -/
  | request (msg : Bytes) (frags : Option (List Bytes)) (arming : Arming) (env : MarkerEnv)
  /-- `ikev2_transmit_response`, and whether it is the response that is kept for a gen-0 replay -/
  | response (msg : Bytes) (frags : Option (List Bytes)) (localEnd remote : Endpoint) (intermediate : Bool)
      (env : MarkerEnv)
  /-- the timer of `transmit_info` -/
  | timer (env : MarkerEnv)
  /-- `ikev2_retransmit_forced`, and whether the last copy is a second old -/
  | forced (localEnd remote : Endpoint) (due : Bool) (env : MarkerEnv)
  /-- `ikev2_move_sa` has moved the SA -/
  | move (localEnd remote : Endpoint)
  /-- the initiator goes to another local address, and repeats its request from there -/
  | follow (localEnd : Endpoint) (env : MarkerEnv)
  /-- `ikev2_tcp_rebind` -/
  | rebind (remote : Endpoint)
  /-- `ikev2_retransmit_add_cookie` -/
  | cookie (msg : Bytes) (env : MarkerEnv)
  /-- `ikev2_replay_intermediate_response` -/
  | replay (env : MarkerEnv)
  /-- `natt_float_ports`, and the local address of a probe -/
  | endpoints (localEnd remote : Endpoint)
  /-- the SA gets another configuration -/
  | config (tcpEncap : Bool)
  deriving DecidableEq, Repr

/-- the fragments of a message; an SA on TCP does not fragment -/
def MarkerSa.fragments (s : MarkerSa) (frags : Option (List Bytes)) : Option (List Bytes) :=
  if s.tcpEncap then none else frags

/-- a first copy that is kept -/
def firstInfo (env : MarkerEnv) (tcpEncap : Bool) (msg : Bytes) (src dest : Endpoint) : TxInfo :=
  ⟨src, dest, some (transmitNoretry env tcpEncap ⟨msg, 0⟩ src dest).1, [], tcpEncap && env.stream⟩

def TxInfo.retargetTo (src dest : Endpoint) (info : TxInfo) : TxInfo := { info with src := src, dest := dest }

/-- a retransmitted request from another address moves the response -/
def forcedInfo (localEnd remote : Endpoint) (info : TxInfo) : TxInfo :=
  if sameAddr remote info.dest then info else info.retargetTo localEnd remote

/-- the request is repeated from another address, from the port it had -/
def followInfo (localEnd : Endpoint) (info : TxInfo) : TxInfo :=
  { info with src := { localEnd with port := info.src.port } }

def cookieInfo (msg : Bytes) (overTcp : Bool) (info : TxInfo) : TxInfo :=
  { info with packet := some ⟨msg, 0⟩, overTcp := overTcp }

/-- `ikev2_replay_intermediate_response` -/
def replayResend (env : MarkerEnv) (s : MarkerSa) (r : Gen0Cache) : List MarkedSend :=
  if env.socket ≠ .own then []
  else if r.frags ≠ [] then r.frags.map (.udp s.localEnd s.remote)
  else if nattCheckUdpEncap s.remote s.localEnd = some true then
    if env.room then [.udp s.localEnd s.remote (nattSetNonEspMarker ⟨r.msg, 0⟩)] else []
  else [.udp s.localEnd s.remote ⟨r.msg, 0⟩]

/-- `ikev2_transmit` -/
def MarkerSa.transmit (s : MarkerSa) (msg : Bytes) (frags : Option (List Bytes)) (arming : Arming)
    (env : MarkerEnv) : MarkerSa :=
  match s.fragments frags with
  | some msgs =>
    let pkts := markFrags msgs s.localEnd s.remote
    { s with
      transmitInfo := arming.keep s.transmitInfo (some ⟨s.localEnd, s.remote, none, pkts, false⟩)
      sent := s.sent ++ pkts.map (.udp s.localEnd s.remote) }
  | none =>
    { s with
      transmitInfo := arming.keep s.transmitInfo (some (firstInfo env s.tcpEncap msg s.localEnd s.remote))
      sent := s.sent ++ (transmitNoretry env s.tcpEncap ⟨msg, 0⟩ s.localEnd s.remote).2 }

/-- `ikev2_transmit_response` -/
def MarkerSa.transmitResponse (s : MarkerSa) (msg : Bytes) (frags : Option (List Bytes))
    (localEnd remote : Endpoint) (intermediate : Bool) (env : MarkerEnv) : MarkerSa :=
  match s.fragments frags with
  | some msgs =>
    -- sent and marked by the endpoints of the SA, kept with those of the request
    let pkts := markFrags msgs s.localEnd s.remote
    { s with
      responseInfo := some ⟨localEnd, remote, none, pkts, false⟩
      replay := if intermediate then some ⟨msg, pkts, has4500 s.localEnd s.remote⟩ else s.replay
      sent := s.sent ++ pkts.map (.udp s.localEnd s.remote) }
  | none =>
    { s with
      responseInfo := some (firstInfo env s.tcpEncap msg localEnd remote)
      replay := if intermediate then some ⟨msg, [], false⟩ else s.replay
      sent := s.sent ++ (transmitNoretry env s.tcpEncap ⟨msg, 0⟩ localEnd remote).2 }

def markerStep (s : MarkerSa) : MarkerStep → MarkerSa
  | .request msg frags arming env => s.transmit msg frags arming env
  | .response msg frags localEnd remote intermediate env =>
    s.transmitResponse msg frags localEnd remote intermediate env
  | .timer env =>
    { s with sent := s.sent ++ (s.transmitInfo.map (isakmpResend env s.tcpEncap)).getD [] }
  | .forced localEnd remote due env =>
    { s with
      responseInfo := s.responseInfo.map (forcedInfo localEnd remote)
      sent := s.sent ++ (s.responseInfo.map fun info =>
        if due ∨ sameAddr remote info.dest = false then
          isakmpResend env s.tcpEncap (forcedInfo localEnd remote info)
        else []).getD [] }
  | .move localEnd remote =>
    { s with
      localEnd := localEnd
      remote := remote
      transmitInfo := s.transmitInfo.map (TxInfo.retargetTo localEnd remote)
      responseInfo := s.responseInfo.map (TxInfo.retargetTo localEnd remote) }
  | .follow localEnd env =>
    { s with
      localEnd := localEnd
      transmitInfo := s.transmitInfo.map (followInfo localEnd)
      sent := s.sent ++ (s.transmitInfo.map fun info =>
        isakmpResend env s.tcpEncap (followInfo localEnd info)).getD [] }
  | .rebind remote =>
    { s with
      remote := remote
      transmitInfo := s.transmitInfo.map fun info => info.retargetTo info.src remote
      responseInfo := s.responseInfo.map fun info => info.retargetTo info.src remote }
  | .cookie msg env =>
    { s with
      transmitInfo := s.transmitInfo.map (cookieInfo msg (s.tcpEncap && env.stream))
      sent := s.sent ++ (s.transmitInfo.map fun info =>
        isakmpResend env s.tcpEncap (cookieInfo msg (s.tcpEncap && env.stream) info)).getD [] }
  | .replay env => { s with sent := s.sent ++ (s.replay.map (replayResend env s)).getD [] }
  | .endpoints localEnd remote => { s with localEnd := localEnd, remote := remote }
  | .config tcpEncap => { s with tcpEncap := tcpEncap }

/-! ## the condition -/

/-- on port 4500 a first copy rides a stream or really leaves -/
def FirstFits (env : MarkerEnv) (tcpEncap : Bool) (src dest : Endpoint) : Prop :=
  has4500 src dest = true →
    (tcpEncap && env.stream) = true ∨ env.socket = .own ∧ src.port ≠ 0 ∧ dest.port ≠ 0 ∧ env.room = true

/-- on port 4500 neither port is unknown -/
def PortsKnown (src dest : Endpoint) : Prop := has4500 src dest = true → src.port ≠ 0 ∧ dest.port ≠ 0

/-- on port 4500 a cached packet leaves the way it was first sent, and from there -/
structure TxInfo.ResendFits (env : MarkerEnv) (tcpEncap : Bool) (info : TxInfo) : Prop where
  way : info.packet ≠ none → has4500 info.src info.dest = true → (tcpEncap && env.stream) = info.overTcp
  port : has4500 (sendSrc env.socket info.src info.dest) info.dest = has4500 info.src info.dest

/-- other endpoints do not change whether port 4500 is used, unless all was for a stream -/
def TxInfo.Keeps (src dest : Endpoint) (info : TxInfo) : Prop :=
  info.overTcp = false ∨ info.frags ≠ [] → has4500 src dest = has4500 info.src info.dest

/-- a request: its fragments, or its first copy -/
def RequestFits (s : MarkerSa) (frags : Option (List Bytes)) (arming : Arming) (env : MarkerEnv) : Prop :=
  if (s.fragments frags).isSome then PortsKnown s.localEnd s.remote
  else arming = .armed → FirstFits env s.tcpEncap s.localEnd s.remote

/-- a response: its fragments are kept for the port they are marked for -/
def ResponseFits (s : MarkerSa) (frags : Option (List Bytes)) (localEnd remote : Endpoint) (env : MarkerEnv) : Prop :=
  if (s.fragments frags).isSome then
    PortsKnown s.localEnd s.remote ∧ has4500 localEnd remote = has4500 s.localEnd s.remote
  else FirstFits env s.tcpEncap localEnd remote

/-- the condition on a step -/
def MarkerFits (s : MarkerSa) : MarkerStep → Prop
  | .request _ frags arming env => RequestFits s frags arming env
  | .response _ frags localEnd remote _ env => ResponseFits s frags localEnd remote env
  | .timer env => ∀ info, s.transmitInfo = some info → info.ResendFits env s.tcpEncap
  | .forced localEnd remote _ env => ∀ info, s.responseInfo = some info →
    (sameAddr remote info.dest = false → info.Keeps localEnd remote) ∧
      (forcedInfo localEnd remote info).ResendFits env s.tcpEncap
  | .move localEnd remote =>
    (∀ info, s.transmitInfo = some info → info.Keeps localEnd remote) ∧
      ∀ info, s.responseInfo = some info → info.Keeps localEnd remote
  | .follow localEnd env => ∀ info, s.transmitInfo = some info → (followInfo localEnd info).ResendFits env s.tcpEncap
  | .rebind remote =>
    (∀ info, s.transmitInfo = some info → info.Keeps info.src remote) ∧
      ∀ info, s.responseInfo = some info → info.Keeps info.src remote
  | .cookie msg env => ∀ info, s.transmitInfo = some info →
    (has4500 info.src info.dest = true → (s.tcpEncap && env.stream) = true) ∧
      (cookieInfo msg (s.tcpEncap && env.stream) info).ResendFits env s.tcpEncap
  | .replay _ => ∀ r, s.replay = some r →
    if r.frags ≠ [] then r.marked = has4500 s.localEnd s.remote else PortsKnown s.localEnd s.remote
  | .endpoints _ _ => True
  | .config _ => True

/-! ## the invariant -/

/-- what is cached fits the endpoints it is kept for -/
structure TxInfo.Fits (info : TxInfo) : Prop where
  packet : ∀ p, info.packet = some p →
    p.markers = if info.overTcp then 0 else (has4500 info.src info.dest).toNat
  frags : ∀ p ∈ info.frags, p.markers = (has4500 info.src info.dest).toNat

structure MarkerInv (s : MarkerSa) : Prop where
  transmitInfo : ∀ info, s.transmitInfo = some info → info.Fits
  responseInfo : ∀ info, s.responseInfo = some info → info.Fits
  replay : ∀ r, s.replay = some r → ∀ p ∈ r.frags, p.markers = r.marked.toNat
  sent : ∀ x ∈ s.sent, x.Right

section
variable {env : MarkerEnv} {tcpEncap : Bool} {src dest : Endpoint} {p : Pkt} {info : TxInfo}

theorem octets_zero (h : p.markers = 0) : p.octets = p.msg := by
  unfold Pkt.octets
  rw [h]
  rfl

theorem octets_one (h : p.markers = 1) : p.octets = [0, 0, 0, 0] ++ p.msg := by
  unfold Pkt.octets
  rw [h]
  rfl

theorem udp_right (h : p.markers = (has4500 src dest).toNat) : (MarkedSend.udp src dest p).Right := by
  show p.octets = if has4500 src dest then [0, 0, 0, 0] ++ p.msg else p.msg
  cases hnat : has4500 src dest with
  | true =>
    rw [hnat] at h
    rw [if_pos rfl, octets_one h]
  | false =>
    rw [hnat] at h
    rw [if_neg Bool.false_ne_true, octets_zero h]

theorem tcp_right (h : p.markers = 0) : (MarkedSend.tcp p).Right := octets_zero h

/-! ## first copies -/

theorem nattCheck_true (h : nattCheckUdpEncap dest src = some true) : has4500 src dest = true := by
  unfold nattCheckUdpEncap at h
  split at h
  · cases h
  · exact Option.some.inj h

theorem nattCheck_false (h : nattCheckUdpEncap dest src = some false) : has4500 src dest = false := by
  unfold nattCheckUdpEncap at h
  split at h
  · cases h
  · exact Option.some.inj h

theorem nattCheck_known (hnat : has4500 src dest = true) (hsrc : src.port ≠ 0) (hdest : dest.port ≠ 0) :
    nattCheckUdpEncap dest src = some true := by
  unfold nattCheckUdpEncap
  rw [if_neg, hnat]
  rintro (h | h)
  · exact hdest h
  · exact hsrc h

theorem transmit_right (env : MarkerEnv) (tcpEncap : Bool) (msg : Bytes) (src dest : Endpoint) :
    ∀ x ∈ (transmitNoretry env tcpEncap ⟨msg, 0⟩ src dest).2, x.Right := by
  unfold transmitNoretry
  split
  · intro x hx
    rw [List.mem_singleton.mp hx]
    exact tcp_right rfl
  · split
    · intro x hx
      cases hx
    · split
      · intro x hx
        cases hx
      · rename_i hcheck
        intro x hx
        rw [List.mem_singleton.mp hx]
        apply udp_right
        rw [nattCheck_false hcheck]
        rfl
      · rename_i hcheck
        split
        · intro x hx
          rw [List.mem_singleton.mp hx]
          apply udp_right
          rw [nattCheck_true hcheck]
          rfl
        · intro x hx
          cases hx

/-- a first copy that leaves on port 4500 has its marker in the cache -/
theorem firstInfo_fits {msg : Bytes} (h : FirstFits env tcpEncap src dest) :
    (firstInfo env tcpEncap msg src dest).Fits := by
  refine ⟨?_, fun p hp => (nomatch hp)⟩
  rintro _ ⟨⟩
  show (transmitNoretry env tcpEncap ⟨msg, 0⟩ src dest).1.markers
    = if (tcpEncap && env.stream) then 0 else (has4500 src dest).toNat
  unfold transmitNoretry
  by_cases hstream : (tcpEncap && env.stream) = true
  · rw [if_pos hstream, if_pos hstream]
  · rw [if_neg hstream, if_neg hstream]
    cases hnat : has4500 src dest with
    | true =>
      obtain ⟨hsocket, hsrc, hdest, hroom⟩ := (h hnat).resolve_left hstream
      rw [if_neg (not_not.mpr hsocket), nattCheck_known hnat hsrc hdest]
      dsimp only
      rw [if_pos hroom]
      rfl
    | false =>
      split
      · rfl
      · split
        · rfl
        · rfl
        · rename_i hcheck
          rw [nattCheck_true hcheck] at hnat
          cases hnat

theorem markFrags_markers (msgs : List Bytes) (h : PortsKnown src dest) :
    ∀ p ∈ markFrags msgs src dest, p.markers = (has4500 src dest).toNat := by
  intro p hp
  obtain ⟨m, -, rfl⟩ := List.mem_map.mp hp
  cases hnat : has4500 src dest with
  | true =>
    obtain ⟨hsrc, hdest⟩ := h hnat
    rw [if_pos (nattCheck_known hnat hsrc hdest)]
    rfl
  | false =>
    rw [if_neg]
    · rfl
    · intro hcheck
      rw [nattCheck_true hcheck] at hnat
      cases hnat

theorem frags_right {frags : List Pkt} (h : ∀ p ∈ frags, p.markers = (has4500 src dest).toNat) :
    ∀ x ∈ frags.map (MarkedSend.udp src dest), x.Right := by
  intro x hx
  obtain ⟨p, hp, rfl⟩ := List.mem_map.mp hx
  exact udp_right (h p hp)

/-! ## further copies -/

theorem resend_right (hinfo : info.Fits) (h : info.ResendFits env tcpEncap) :
    ∀ x ∈ isakmpResend env tcpEncap info, x.Right := by
  have hfrags : ∀ x ∈ info.frags.map (MarkedSend.udp (sendSrc env.socket info.src info.dest) info.dest), x.Right := by
    apply frags_right
    rw [h.port]
    exact hinfo.frags
  unfold isakmpResend
  split
  · rename_i p hp
    have hway := h.way (by rw [hp]; exact Option.some_ne_none _)
    have hmarkers := hinfo.packet p hp
    split
    · rename_i hstream
      intro x hx
      rw [List.mem_singleton.mp hx]
      apply tcp_right
      rw [hmarkers]
      cases hnat : has4500 info.src info.dest with
      | true => rw [← hway hnat, if_pos hstream]
      | false => exact ite_self 0
    · rename_i hstream
      split
      · intro x hx
        cases hx
      · split
        · intro x hx
          rw [List.mem_singleton.mp hx]
          apply udp_right
          rw [h.port, hmarkers]
          cases hnat : has4500 info.src info.dest with
          | true => rw [← hway hnat, if_neg hstream]
          | false => exact ite_self 0
        · exact hfrags
  · split
    · intro x hx
      cases hx
    · exact hfrags

theorem Fits.retarget (hinfo : info.Fits) (h : info.Keeps src dest) : (info.retargetTo src dest).Fits := by
  refine ⟨?_, ?_⟩
  · intro p hp
    show p.markers = if info.overTcp then 0 else (has4500 src dest).toNat
    rw [hinfo.packet p hp]
    cases hway : info.overTcp with
    | true => rfl
    | false => rw [h (.inl hway)]
  · intro p hp
    show p.markers = (has4500 src dest).toNat
    rw [h (.inr (List.ne_nil_of_mem hp))]
    exact hinfo.frags p hp

theorem Fits.forced (hinfo : info.Fits) {localEnd remote : Endpoint}
    (h : sameAddr remote info.dest = false → info.Keeps localEnd remote) :
    (forcedInfo localEnd remote info).Fits := by
  unfold forcedInfo
  split
  · exact hinfo
  · rename_i hmoved
    exact Fits.retarget hinfo (h (Bool.not_eq_true _ ▸ hmoved))

/-- the port stays -/
theorem Fits.follow (hinfo : info.Fits) (localEnd : Endpoint) : (followInfo localEnd info).Fits :=
  ⟨hinfo.packet, hinfo.frags⟩

theorem Fits.cookie (hinfo : info.Fits) {msg : Bytes} {overTcp : Bool}
    (h : has4500 info.src info.dest = true → overTcp = true) : (cookieInfo msg overTcp info).Fits := by
  refine ⟨?_, hinfo.frags⟩
  rintro _ ⟨⟩
  show 0 = if overTcp then 0 else (has4500 info.src info.dest).toNat
  cases hnat : has4500 info.src info.dest with
  | true => rw [h hnat, if_pos rfl]
  | false => exact (ite_self 0).symm

end

/-! ## runs -/

section
variable {s : MarkerSa}

/-- more is sent -/
theorem mem_sent {old new : List MarkedSend} (hold : ∀ x ∈ old, x.Right) (hnew : ∀ x ∈ new, x.Right) :
    ∀ x ∈ old ++ new, x.Right := by
  intro x hx
  obtain hx | hx := List.mem_append.mp hx
  · exact hold x hx
  · exact hnew x hx

theorem getD_right {α : Type} {a : Option α} {f : α → List MarkedSend} (h : ∀ x, a = some x → ∀ y ∈ f x, y.Right) :
    ∀ y ∈ (a.map f).getD [], y.Right := by
  cases a with
  | none =>
    intro y hy
    cases hy
  | some x => exact h x rfl

/-- all infos of an SA are changed alike -/
theorem map_fits {a : Option TxInfo} {f : TxInfo → TxInfo} (h : ∀ info, a = some info → (f info).Fits) :
    ∀ info, a.map f = some info → info.Fits := by
  intro info hinfo
  obtain ⟨info', ha, rfl⟩ := Option.map_eq_some_iff.mp hinfo
  exact h info' ha

theorem keep_fits {old new : Option TxInfo} {arming : Arming} (hold : ∀ info, old = some info → info.Fits)
    (hnew : arming = .armed → ∀ info, new = some info → info.Fits) :
    ∀ info, arming.keep old new = some info → info.Fits := by
  cases arming with
  | armed => exact hnew rfl
  | noCopies => exact hold
  | noTimer =>
    intro info hinfo
    cases hinfo

theorem transmit_inv {msg : Bytes} {frags : Option (List Bytes)} {arming : Arming} {env : MarkerEnv}
    (h : MarkerInv s) (hfits : RequestFits s frags arming env) :
    MarkerInv (s.transmit msg frags arming env) := by
  unfold RequestFits at hfits
  unfold MarkerSa.transmit
  cases hfrags : s.fragments frags with
  | some msgs =>
    rw [hfrags, Option.isSome_some, if_pos rfl] at hfits
    have hmarkers := markFrags_markers msgs hfits
    refine ⟨keep_fits h.transmitInfo ?_, h.responseInfo, h.replay, mem_sent h.sent (frags_right hmarkers)⟩
    rintro - info ⟨⟩
    exact ⟨fun p hp => (nomatch hp), hmarkers⟩
  | none =>
    rw [hfrags, Option.isSome_none, if_neg Bool.false_ne_true] at hfits
    refine ⟨keep_fits h.transmitInfo ?_, h.responseInfo, h.replay,
      mem_sent h.sent (transmit_right _ _ _ _ _)⟩
    rintro harmed info ⟨⟩
    exact firstInfo_fits (hfits harmed)

theorem transmitResponse_inv {msg : Bytes} {frags : Option (List Bytes)} {localEnd remote : Endpoint} {intermediate : Bool}
    {env : MarkerEnv} (h : MarkerInv s) (hfits : ResponseFits s frags localEnd remote env) :
    MarkerInv (s.transmitResponse msg frags localEnd remote intermediate env) := by
  unfold ResponseFits at hfits
  unfold MarkerSa.transmitResponse
  cases hfrags : s.fragments frags with
  | some msgs =>
    rw [hfrags, Option.isSome_some, if_pos rfl] at hfits
    have hmarkers := markFrags_markers msgs hfits.1
    refine ⟨h.transmitInfo, ?_, ?_, mem_sent h.sent (frags_right hmarkers)⟩
    · rintro _ ⟨⟩
      refine ⟨fun p hp => (nomatch hp), ?_⟩
      show ∀ p ∈ markFrags msgs s.localEnd s.remote, p.markers = (has4500 localEnd remote).toNat
      rw [hfits.2]
      exact hmarkers
    · intro r hr
      dsimp only at hr
      split at hr
      · cases hr
        exact hmarkers
      · exact h.replay r hr
  | none =>
    rw [hfrags, Option.isSome_none, if_neg Bool.false_ne_true] at hfits
    refine ⟨h.transmitInfo, ?_, ?_, mem_sent h.sent (transmit_right _ _ _ _ _)⟩
    · rintro _ ⟨⟩
      exact firstInfo_fits hfits
    · intro r hr
      dsimp only at hr
      split at hr
      · cases hr
        exact fun p hp => (nomatch hp)
      · exact h.replay r hr

theorem replay_right {env : MarkerEnv} {r : Gen0Cache} (hr : ∀ p ∈ r.frags, p.markers = r.marked.toNat)
    (h : if r.frags ≠ [] then r.marked = has4500 s.localEnd s.remote else PortsKnown s.localEnd s.remote) :
    ∀ x ∈ replayResend env s r, x.Right := by
  unfold replayResend
  split
  · intro x hx
    cases hx
  · split
    · rename_i hfrags
      rw [if_pos hfrags] at h
      apply frags_right
      rw [← h]
      exact hr
    · rename_i hfrags
      rw [if_neg hfrags] at h
      split
      · rename_i hcheck
        split
        · intro x hx
          rw [List.mem_singleton.mp hx]
          apply udp_right
          rw [nattCheck_true hcheck]
          rfl
        · intro x hx
          cases hx
      · rename_i hcheck
        intro x hx
        rw [List.mem_singleton.mp hx]
        apply udp_right
        cases hnat : has4500 s.localEnd s.remote with
        | true =>
          obtain ⟨hsrc, hdest⟩ := h hnat
          exact absurd (nattCheck_known hnat hsrc hdest) hcheck
        | false => rfl

theorem markerInv_step (s : MarkerSa) (step : MarkerStep) (h : MarkerInv s) (hfits : MarkerFits s step) :
    MarkerInv (markerStep s step) := by
  cases step with
  | request msg frags arming env => exact transmit_inv h hfits
  | response msg frags localEnd remote intermediate env => exact transmitResponse_inv h hfits
  | timer env =>
    refine ⟨h.transmitInfo, h.responseInfo, h.replay, mem_sent h.sent (getD_right ?_)⟩
    intro info hinfo
    exact resend_right (h.transmitInfo info hinfo) (hfits info hinfo)
  | forced localEnd remote due env =>
    have hforced : ∀ info, s.responseInfo = some info → (forcedInfo localEnd remote info).Fits :=
      fun info hinfo => Fits.forced (h.responseInfo info hinfo) (hfits info hinfo).1
    refine ⟨h.transmitInfo, map_fits hforced, h.replay, mem_sent h.sent (getD_right ?_)⟩
    intro info hinfo
    split
    · exact resend_right (hforced info hinfo) (hfits info hinfo).2
    · intro x hx
      cases hx
  | move localEnd remote =>
    refine ⟨map_fits ?_, map_fits ?_, h.replay, h.sent⟩
    · exact fun info hinfo => Fits.retarget (h.transmitInfo info hinfo) (hfits.1 info hinfo)
    · exact fun info hinfo => Fits.retarget (h.responseInfo info hinfo) (hfits.2 info hinfo)
  | follow localEnd env =>
    have hfollow : ∀ info, s.transmitInfo = some info → (followInfo localEnd info).Fits :=
      fun info hinfo => Fits.follow (h.transmitInfo info hinfo) localEnd
    refine ⟨map_fits hfollow, h.responseInfo, h.replay, mem_sent h.sent (getD_right ?_)⟩
    intro info hinfo
    exact resend_right (hfollow info hinfo) (hfits info hinfo)
  | rebind remote =>
    refine ⟨map_fits ?_, map_fits ?_, h.replay, h.sent⟩
    · exact fun info hinfo => Fits.retarget (h.transmitInfo info hinfo) (hfits.1 info hinfo)
    · exact fun info hinfo => Fits.retarget (h.responseInfo info hinfo) (hfits.2 info hinfo)
  | cookie msg env =>
    have hcookie : ∀ info, s.transmitInfo = some info →
        (cookieInfo msg (s.tcpEncap && env.stream) info).Fits :=
      fun info hinfo => Fits.cookie (h.transmitInfo info hinfo) (hfits info hinfo).1
    refine ⟨map_fits hcookie, h.responseInfo, h.replay, mem_sent h.sent (getD_right ?_)⟩
    intro info hinfo
    exact resend_right (hcookie info hinfo) (hfits info hinfo).2
  | replay env =>
    refine ⟨h.transmitInfo, h.responseInfo, h.replay, mem_sent h.sent (getD_right ?_)⟩
    intro r hr
    exact replay_right (h.replay r hr) (hfits r hr)
  | endpoints localEnd remote => exact ⟨h.transmitInfo, h.responseInfo, h.replay, h.sent⟩
  | config tcpEncap => exact ⟨h.transmitInfo, h.responseInfo, h.replay, h.sent⟩

end

/-- an SA before its first message -/
def newMarkerSa (localEnd remote : Endpoint) (tcpEncap : Bool) : MarkerSa :=
  ⟨localEnd, remote, tcpEncap, none, none, none, []⟩

/-- **the non-ESP marker over a run.**  In a run whose steps keep to the condition, every datagram on port 4500
has one marker, every other one none, and every message on a stream none. -/
theorem non_esp_marker_run (localEnd remote : Endpoint) (tcpEncap : Bool) (steps : List MarkerStep)
    (hfits : Run.Meets markerStep MarkerFits (newMarkerSa localEnd remote tcpEncap) steps) :
    ∀ s ∈ Run.states markerStep (newMarkerSa localEnd remote tcpEncap) steps, ∀ x ∈ s.sent, x.Right := by
  have hinv : MarkerInv (newMarkerSa localEnd remote tcpEncap) :=
    ⟨fun _ h => (nomatch h), fun _ h => (nomatch h), fun _ h => (nomatch h), fun _ h => (nomatch h)⟩
  intro s hs
  exact (Run.states_inv markerInv_step steps _ hinv hfits s hs).sent

/-! an SA that goes to another address -/

def plainSend : MarkerEnv := ⟨false, .own, true⟩

def exampleMsg : Bytes := List.replicate 28 7

/-- on port 4500 all along: a request and its copies before and after the move, a response and its replay -/
def natRun : List MarkerStep :=
  [.request exampleMsg none .armed plainSend, .timer plainSend, .move (.v4 198 51 100 1 4500) (.v4 192 0 2 9 4500),
    .timer plainSend, .response exampleMsg none (.v4 198 51 100 1 4500) (.v4 192 0 2 9 4500) false plainSend,
    .forced (.v4 198 51 100 1 4500) (.v4 192 0 2 9 4500) true plainSend]

theorem non_esp_marker_run_nat :
    Run.Meets markerStep MarkerFits (newMarkerSa (.v4 198 51 100 1 4500) (.v4 192 0 2 1 4500) false) natRun ∧
    ∀ s ∈ Run.states markerStep (newMarkerSa (.v4 198 51 100 1 4500) (.v4 192 0 2 1 4500) false) natRun,
      ∀ x ∈ s.sent, x.Right := by
  have hfits : Run.Meets markerStep MarkerFits (newMarkerSa (.v4 198 51 100 1 4500) (.v4 192 0 2 1 4500) false)
      natRun := by
    refine ⟨fun _ _ => .inr ⟨rfl, by decide, by decide, rfl⟩, ?_, ⟨?_, ?_⟩, ?_,
      fun _ => .inr ⟨rfl, by decide, by decide, rfl⟩, ?_, trivial⟩
    · rintro info ⟨⟩
      exact ⟨fun _ _ => rfl, rfl⟩
    · rintro info ⟨⟩ _
      rfl
    · rintro info ⟨⟩
    · rintro info ⟨⟩
      exact ⟨fun _ _ => rfl, rfl⟩
    · rintro info ⟨⟩
      exact ⟨fun _ _ => rfl, ⟨fun _ _ => rfl, rfl⟩⟩
  exact ⟨hfits, non_esp_marker_run _ _ _ _ hfits⟩

/-- a request goes out on port 500, a NAT is found and the SA moves to port 4500: the copy has no marker -/
theorem non_esp_marker_lost :
    ¬ ∀ s ∈ Run.states markerStep (newMarkerSa (.v4 198 51 100 1 500) (.v4 192 0 2 1 500) false)
        [.request exampleMsg none .armed plainSend, .move (.v4 198 51 100 1 4500) (.v4 192 0 2 9 4500),
          .timer plainSend],
      ∀ x ∈ s.sent, x.Right := by
  intro h
  have hlast := h _ (Run.foldl_mem_states _ _)
    (.udp (.v4 198 51 100 1 4500) (.v4 192 0 2 9 4500) ⟨exampleMsg, 0⟩) (by decide)
  revert hlast
  unfold MarkedSend.Right
  decide

end Ikev2
