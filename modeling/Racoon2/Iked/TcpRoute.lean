import Racoon2.Lib.Keyed
import Racoon2.Iked.Established
import Racoon2.Iked.ResponseAddress
import Racoon2.Iked.TcpRegistry

/-!
# Which TCP stream a message rides

`ikev2_tcp_route` picks the stream for a message of an SA: the one bound to the SA's endpoints, else any
stream between the two addresses.  Clients behind one NAT have one address; only the port of their
stream tells them apart.

A run has the streams that are accepted and die, the SAs that clients establish over them, the messages
they receive and those they send.  What an authentic message does to the endpoints of its SA is
`followSource`, and what the body of its handler writes into them.

* `ikev2TcpRoute`, `ikev2TcpSend`       the choice, and the write;
* `receiveSa`                           the endpoints after a message;
* `RouteOk`                             the condition on a step;
* `RouteInv`                            a live stream at the endpoints of an SA is the one its peer last used;
* `RouteInv.response_onStream`          a response rides the stream of its request (`ResponseAddress`).
-/

set_option linter.unusedVariables false

namespace Ikev2
open Bytes Keyed

/-! ## lookups in the list of streams -/

/-- the registry as the list of its streams -/
def TcpSrv.table (s : TcpSrv) : List (Nat × TcpConn) :=
  s.conns.filterMap fun c => (s.conn c).map fun conn => (c, conn)

section
variable (conns : List (Nat × TcpConn))

def tcpFindConn (test : TcpConn → Bool) : Option (Nat × TcpConn) :=
  conns.find? fun c => !c.2.dead && test c.2

/-- `tcp_srv_find` -/
def tcpFind (remote local_ : Endpoint) : Option (Nat × TcpConn) :=
  tcpFindConn conns fun conn => sameAddr conn.remote remote && sameAddr conn.local_ local_

/-- `tcp_srv_find_bound` -/
def tcpFindBound (remote local_ : Endpoint) : Option (Nat × TcpConn) :=
  tcpFindConn conns fun conn =>
    sameAddr conn.remote remote && conn.remote.port == remote.port && sameAddr conn.local_ local_

/-- `ikev2_tcp_route`, with the destination and the source of the message -/
def ikev2TcpRoute (sa : Option Sa) (ends : Option (Endpoint × Endpoint)) : Option (Nat × TcpConn) :=
  if sa.any fun sa => !sa.tcpEncap then none
  else
    (sa.bind fun sa => tcpFindBound conns sa.remoteEp sa.localEp).or
      (ends.bind fun ends => tcpFind conns ends.1 ends.2)

/-- `tcp_srv_teardown` -/
def tcpMarkDead (c : Nat) : List (Nat × TcpConn) :=
  conns.map fun x => if x.1 = c then (x.1, { x.2 with dead := true }) else x

end

/-- the lookups of the registry are those in its list -/
theorem tcpSrvLookup_table (s : TcpSrv) (test : TcpConn → Bool) :
    tcpSrvLookup s test = (tcpFindConn s.table test).map Prod.fst := by
  unfold tcpSrvLookup tcpFindConn TcpSrv.table
  induction s.conns with
  | nil => rfl
  | cons c l ih =>
    rw [List.find?_cons]
    cases hconn : s.conn c with
    | none =>
      rw [List.filterMap_cons_none (by rw [hconn]; rfl)]
      simpa [hconn] using ih
    | some conn =>
      rw [List.filterMap_cons_some (b := (c, conn)) (by rw [hconn]; rfl), List.find?_cons]
      have hdead : s.dead c = conn.dead := by
        unfold TcpSrv.dead
        rw [hconn]
        rfl
      rw [hdead]
      show (match !conn.dead && test conn with | true => some c | false => _) = _
      cases !conn.dead && test conn with
      | true => rfl
      | false => exact ih

/-! ## the endpoints of an SA -/

/-- what `ikev2_create_child_responder` writes into the SA (RFC 4555, 3.8) -/
def createChildEndpoints (sa : Sa) (remote local_ : Endpoint) : Sa :=
  if sa.mobikeSupported && !sa.behindNat && !sa.peerBehindNat then sa
  else { sa with localEp := local_, remoteEp := remote }

/-- what the body of a handler does with the endpoints -/
inductive Body where
  | createChild
  /-- UPDATE_SA_ADDRESSES, with the NAT that its notifications show -/
  | updateAddresses (behindNat peerBehindNat : Bool)
  | other
  deriving DecidableEq, Repr

/-- how a message of an SA is taken -/
inductive Receipt where
  | forged
  /-- authentic, but a copy of a request that was answered, or out of the window -/
  | ignored
  | handled (env : Env) (packet : Bytes) (body : Body)

def Receipt.authentic : Receipt → Bool
  | .forged => false
  | _ => true

def bodySa (env : Env) (sa : Sa) (remote local_ : Endpoint) : Body → Sa
  | .createChild => createChildEndpoints sa remote local_
  | .updateAddresses behindNat peerBehindNat =>
    if sa.mobikeSupported then
      moveSa env { sa with behindNat := behindNat, peerBehindNat := peerBehindNat } remote local_
    else sa
  | .other => sa

/-- the registry answers `tcp_srv_find_bound` -/
def Env.withConns (env : Env) (conns : List (Nat × TcpConn)) : Env :=
  { env with tcpBound := fun remote local_ => (tcpFindBound conns remote local_).isSome }

def receiveSa (conns : List (Nat × TcpConn)) (sa : Sa) (conn : TcpConn) : Receipt → Sa
  | .handled env packet body =>
    bodySa env (followSource (env.withConns conns) sa packet conn.remote conn.local_) conn.remote
      conn.local_ body
  | _ => sa

/-! ## runs -/

/-- an established SA that a client initiated -/
structure RouteSa where
  id : Nat
  sa : Sa
  client : Nat
  /-- the stream on which its last authentic message came -/
  last : Nat

/-- a message that went to a stream: the client of its SA, and the stream that client last used -/
structure TcpWrite where
  client : Nat
  last : Nat
  stream : Nat
  deriving DecidableEq, Repr

structure RouteState where
  conns : List (Nat × TcpConn)
  fresh : Nat
  /-- the client at the other end of a stream -/
  owner : Nat → Nat
  sas : List RouteSa
  writes : List TcpWrite

/-- what `tcp_stream_send` makes of a message -/
inductive SendResult where
  | queued
  /-- the buffer is full, or the message too long -/
  | refused
  | fatal
  deriving DecidableEq, Repr

inductive RouteEvent where
  /-- a client connects, or we connect to it -/
  | connect (client : Nat) (connecting : Bool) (remote local_ : Endpoint)
  /-- a stream is marked dead -/
  | teardown (c : Nat)
  /-- a pass finds a stream dead -/
  | reap (c : Nat)
  /-- IKE_AUTH on a stream makes the SA established -/
  | establish (i : Nat) (sa : Sa) (child : Bool) (c : Nat)
  | receive (i c : Nat) (receipt : Receipt)
  | send (i : Nat) (ends : Option (Endpoint × Endpoint)) (result : SendResult)
  /-- the SA goes -/
  | forget (i : Nat)

def routeInit : RouteState := ⟨[], 0, fun _ => 0, [], []⟩

/-- `ikev2_tcp_send` -/
def ikev2TcpSend (s : RouteState) (r : RouteSa) (ends : Option (Endpoint × Endpoint))
    (result : SendResult) : RouteState :=
  match ikev2TcpRoute s.conns (some r.sa) ends with
  | none => s
  | some ts =>
    { s with
      conns := if result = .fatal then tcpMarkDead s.conns ts.1 else s.conns
      writes := if result = .refused then s.writes else ⟨r.client, r.last, ts.1⟩ :: s.writes }

def tcpConnect (s : RouteState) (client : Nat) (connecting : Bool) (remote local_ : Endpoint) :
    RouteState :=
  if !connecting && tcpSrvMaxConns ≤ s.conns.countP fun c => !c.2.dead then s
  else
    { s with
      conns := (s.fresh, ⟨connecting, false, remote, local_⟩) :: s.conns
      fresh := s.fresh + 1
      owner := Function.update s.owner s.fresh client }

def Sa.established (sa : Sa) : Sa := { sa with isInitiator := false, state := .established }

/-- the SA when IKE_AUTH is done -/
def authSa (sa : Sa) (child : Bool) (conn : TcpConn) : Sa :=
  if child then createChildEndpoints sa.established conn.remote conn.local_ else sa.established

def establishSa (s : RouteState) (i : Nat) (sa : Sa) (child : Bool) (x : Nat × TcpConn) : RouteState :=
  { s with sas := ⟨i, authSa sa child x.2, s.owner x.1, x.1⟩ :: remove RouteSa.id s.sas i }

/-- a message of an SA, on whichever stream it comes -/
def receiveOn (s : RouteState) (r : RouteSa) (x : Nat × TcpConn) : Receipt → RouteState
  | .forged => s
  | receipt =>
    { s with
      sas := replace RouteSa.id s.sas { r with sa := receiveSa s.conns r.sa x.2 receipt, last := x.1 } }

def routeStep (s : RouteState) : RouteEvent → RouteState
  | .connect client connecting remote local_ => tcpConnect s client connecting remote local_
  | .teardown c => { s with conns := tcpMarkDead s.conns c }
  | .reap c => { s with conns := remove Prod.fst s.conns c }
  | .establish i sa child c =>
    match find Prod.fst s.conns c with
    | none => s
    | some x => establishSa s i sa child x
  | .receive i c receipt =>
    match find RouteSa.id s.sas i, find Prod.fst s.conns c with
    | some r, some x => receiveOn s r x receipt
    | _, _ => s
  | .send i ends result =>
    match find RouteSa.id s.sas i with
    | none => s
    | some r => ikev2TcpSend s r ends result
  | .forget i => { s with sas := remove RouteSa.id s.sas i }

/-- every message went to the stream that the peer of its SA last used, a stream of its own -/
def RoutedRight (s : RouteState) : Prop :=
  ∀ w ∈ s.writes, w.stream = w.last ∧ s.owner w.stream = w.client

/-! ## the condition -/

/-- what `sameAddr` compares -/
def addrKey (a : Endpoint) : Family × Bytes × Nat :=
  (a.family, a.addr, if a.family = .inet then 0 else a.scope)

/-- what `tcp_srv_find_bound` compares -/
def bindKey (remote local_ : Endpoint) : (Family × Bytes × Nat) × Nat × (Family × Bytes × Nat) :=
  (addrKey remote, remote.port, addrKey local_)

def TcpConn.key (conn : TcpConn) : (Family × Bytes × Nat) × Nat × (Family × Bytes × Nat) :=
  bindKey conn.remote conn.local_

def Sa.tcpKey (sa : Sa) : (Family × Bytes × Nat) × Nat × (Family × Bytes × Nat) :=
  bindKey sa.remoteEp sa.localEp

/-- a CREATE_CHILD_SA request moves the endpoints of the SA -/
def Sa.followsChild (sa : Sa) : Bool := !(sa.mobikeSupported && !sa.behindNat && !sa.peerBehindNat)

/-- the address of ours that the stream leads to is the SA's, or the body of the handler brings it there -/
def bodyFits (sa : Sa) (conn : TcpConn) (env : Env) : Body → Prop
  | .createChild => addrKey conn.local_ = addrKey sa.localEp ∨ sa.followsChild = true
  | .updateAddresses behindNat peerBehindNat =>
    (addrKey conn.local_ = addrKey sa.localEp ∨ sa.mobikeSupported = true ∧ env.migrated = true) ∧
    (sa.mobikeSupported = true → (behindNat || peerBehindNat) = true → conn.remote.port ≠ udpPort)
  | .other => addrKey conn.local_ = addrKey sa.localEp

/-- an authentic message comes on a live stream: on the one that is bound, or it is handled and comes
from the address of the SA -/
def receiptFits (sa : Sa) (conn : TcpConn) : Receipt → Prop
  | .forged => True
  | .ignored => conn.dead = false ∧ conn.key = sa.tcpKey
  | .handled env packet body =>
    conn.dead = false ∧ addrKey conn.remote = addrKey sa.remoteEp ∧ bodyFits sa conn env body

/-- the condition on a step.  An authentic message comes on a stream of the client itself: nobody sends
it on over his own -/
def RouteOk (s : RouteState) : RouteEvent → Prop
  | .connect client connecting remote local_ =>
    (∀ c ∈ s.conns, c.2.dead = false → c.2.key ≠ bindKey remote local_) ∧
    ∀ r ∈ s.sas, r.sa.tcpEncap = true → r.sa.tcpKey ≠ bindKey remote local_
  | .establish i sa child c =>
    ∀ x ∈ find Prod.fst s.conns c, x.2.dead = false ∧
      (child = true ∧ sa.followsChild = true ∨ x.2.key = sa.tcpKey)
  | .receive i c receipt =>
    ∀ r ∈ find RouteSa.id s.sas i, ∀ x ∈ find Prod.fst s.conns c,
      r.sa.tcpEncap = true → receiptFits r.sa x.2 receipt ∧
        (receipt.authentic = true → s.owner x.1 = r.client)
  | .send i ends result =>
    ∀ r ∈ find RouteSa.id s.sas i, r.sa.tcpEncap = true →
      tcpFindBound s.conns r.sa.remoteEp r.sa.localEp ≠ none ∨
        (ends.bind fun ends => tcpFind s.conns ends.1 ends.2) = none
  | _ => True

instance bodyFits.decidable (sa : Sa) (conn : TcpConn) (env : Env) : ∀ body, Decidable (bodyFits sa conn env body)
  | .createChild => inferInstanceAs (Decidable (_ ∨ _))
  | .updateAddresses _ _ => inferInstanceAs (Decidable ((_ ∨ _) ∧ (_ → _ → _)))
  | .other => inferInstanceAs (Decidable (_ = _))

instance receiptFits.decidable (sa : Sa) (conn : TcpConn) : ∀ receipt, Decidable (receiptFits sa conn receipt)
  | .forged => inferInstanceAs (Decidable True)
  | .ignored => inferInstanceAs (Decidable (_ ∧ _))
  | .handled _ _ _ => inferInstanceAs (Decidable (_ ∧ _ ∧ _))

instance RouteOk.decidable (s : RouteState) : ∀ e, Decidable (RouteOk s e)
  | .connect _ _ remote local_ =>
    have hconns : Decidable (∀ c ∈ s.conns, c.2.dead = false → c.2.key ≠ bindKey remote local_) :=
      inferInstance
    have hsas : Decidable (∀ r ∈ s.sas, r.sa.tcpEncap = true → r.sa.tcpKey ≠ bindKey remote local_) :=
      inferInstance
    instDecidableAnd
  | .establish _ _ _ _ => inferInstanceAs (Decidable (∀ x ∈ _, _))
  | .receive _ _ _ => inferInstanceAs (Decidable (∀ r ∈ _, ∀ x ∈ _, _ → _))
  | .send _ _ _ => inferInstanceAs (Decidable (∀ r ∈ _, _ → _))
  | .teardown _ => inferInstanceAs (Decidable True)
  | .reap _ => inferInstanceAs (Decidable True)
  | .forget _ => inferInstanceAs (Decidable True)

/-! ## the lookups -/

theorem sameAddr_iff {a b : Endpoint} : sameAddr a b = true ↔ addrKey a = addrKey b := by
  unfold sameAddr addrKey
  simp only [Bool.and_eq_true, Bool.or_eq_true, beq_iff_eq, Prod.mk.injEq]
  constructor
  · rintro ⟨⟨hfamily, haddr⟩, hscope⟩
    refine ⟨hfamily, haddr, ?_⟩
    rw [← hfamily]
    split
    · rfl
    · rename_i hne
      exact hscope.resolve_left hne
  · rintro ⟨hfamily, haddr, hscope⟩
    refine ⟨⟨hfamily, haddr⟩, ?_⟩
    rw [← hfamily] at hscope
    split at hscope
    · rename_i heq
      exact .inl heq
    · exact .inr hscope

section
variable {conns : List (Nat × TcpConn)} {x : Nat × TcpConn} {remote local_ : Endpoint}

theorem bound_test_iff {conn : TcpConn} :
    (sameAddr conn.remote remote && conn.remote.port == remote.port && sameAddr conn.local_ local_)
      = true ↔ conn.key = bindKey remote local_ := by
  unfold TcpConn.key bindKey
  simp only [Bool.and_eq_true, sameAddr_iff, beq_iff_eq, Prod.mk.injEq]
  tauto

theorem tcpFindBound_some (h : tcpFindBound conns remote local_ = some x) :
    x ∈ conns ∧ x.2.dead = false ∧ x.2.key = bindKey remote local_ := by
  unfold tcpFindBound tcpFindConn at h
  have hmem := List.mem_of_find?_eq_some h
  have htest := List.find?_some h
  obtain ⟨hdead, hkey⟩ := Bool.and_eq_true_iff.mp htest
  rw [Bool.not_eq_true'] at hdead
  exact ⟨hmem, hdead, bound_test_iff.mp hkey⟩

theorem tcpFindBound_isSome (hx : x ∈ conns) (hdead : x.2.dead = false)
    (hkey : x.2.key = bindKey remote local_) : (tcpFindBound conns remote local_).isSome = true := by
  unfold tcpFindBound tcpFindConn
  rw [List.find?_isSome]
  refine ⟨x, hx, ?_⟩
  dsimp only
  rw [hdead, bound_test_iff.mpr hkey]
  rfl

end

/-! ## what a message does to its SA -/

/-- all but the endpoints -/
structure TcpSameKind (sa sa' : Sa) : Prop where
  tcpEncap : sa'.tcpEncap = sa.tcpEncap
  isInitiator : sa'.isInitiator = sa.isInitiator
  state : sa'.state = sa.state
  mobike : sa'.mobikeSupported = sa.mobikeSupported

section
variable {env : Env} {sa : Sa} {conn : TcpConn} {conns : List (Nat × TcpConn)} {packet : Bytes}
  {remote local_ : Endpoint}

theorem TcpSameKind.refl (sa : Sa) : TcpSameKind sa sa := ⟨rfl, rfl, rfl, rfl⟩

theorem TcpSameKind.trans {sa₁ sa₂ sa₃ : Sa} (h : TcpSameKind sa₁ sa₂) (h' : TcpSameKind sa₂ sa₃) :
    TcpSameKind sa₁ sa₃ :=
  ⟨h'.tcpEncap.trans h.tcpEncap, h'.isInitiator.trans h.isInitiator, h'.state.trans h.state,
    h'.mobike.trans h.mobike⟩

theorem moveSa_tcpSameKind : TcpSameKind sa (moveSa env sa remote local_) := by
  unfold moveSa
  dsimp only
  split
  · exact TcpSameKind.refl sa
  · split
    · exact TcpSameKind.refl sa
    · exact ⟨rfl, rfl, rfl, rfl⟩

theorem tcpRebind_tcpSameKind : TcpSameKind sa (tcpRebind env sa remote) := by
  unfold tcpRebind
  split
  · exact ⟨rfl, rfl, rfl, rfl⟩
  · exact TcpSameKind.refl sa

/-- over TCP only a new address moves the SA; else it is bound to the stream of the message -/
theorem followSource_tcp (htcp : sa.tcpEncap = true) (hstate : sa.state = .established)
    (haddr : addrKey remote = addrKey sa.remoteEp) :
    followSource env sa packet remote local_ = tcpRebind env sa remote := by
  have hsame : mobikeEndpointChanged sa remote = false := by
    unfold mobikeEndpointChanged
    rw [if_pos htcp, sameAddr_iff.mpr haddr]
    simp
  unfold followSource
  rw [hsame, Bool.and_false, if_neg Bool.false_ne_true, if_pos (by rw [hstate]; rfl)]

theorem followSource_tcpSameKind : TcpSameKind sa (followSource env sa packet remote local_) := by
  have hmoved : TcpSameKind sa (mobikeApply env sa remote local_) := by
    unfold mobikeApply
    split
    · exact moveSa_tcpSameKind
    · exact TcpSameKind.refl sa
  unfold followSource
  dsimp only
  split <;> split
  · exact hmoved.trans tcpRebind_tcpSameKind
  · exact hmoved
  · exact tcpRebind_tcpSameKind
  · exact TcpSameKind.refl sa

theorem bodySa_tcpSameKind (body : Body) : TcpSameKind sa (bodySa env sa remote local_ body) := by
  cases body with
  | createChild =>
    unfold bodySa createChildEndpoints
    dsimp only
    split
    · exact TcpSameKind.refl sa
    · exact ⟨rfl, rfl, rfl, rfl⟩
  | updateAddresses behindNat peerBehindNat =>
    unfold bodySa
    dsimp only
    split
    · have hmoved : TcpSameKind { sa with behindNat := behindNat, peerBehindNat := peerBehindNat }
          (moveSa env { sa with behindNat := behindNat, peerBehindNat := peerBehindNat } remote local_) :=
        moveSa_tcpSameKind
      exact ⟨hmoved.tcpEncap, hmoved.isInitiator, hmoved.state, hmoved.mobike⟩
    · exact TcpSameKind.refl sa
  | other => exact TcpSameKind.refl sa

theorem receiveSa_tcpSameKind (receipt : Receipt) : TcpSameKind sa (receiveSa conns sa conn receipt) := by
  cases receipt with
  | forged => exact TcpSameKind.refl sa
  | ignored => exact TcpSameKind.refl sa
  | handled env packet body => exact followSource_tcpSameKind.trans (bodySa_tcpSameKind body)

/-- the SA is rebound to a live stream that leads to its own address -/
theorem tcpRebind_key {x : Nat × TcpConn} (hx : x ∈ conns) (hdead : x.2.dead = false)
    (htcp : sa.tcpEncap = true) (hinit : sa.isInitiator = false)
    (haddr : addrKey x.2.remote = addrKey sa.remoteEp) (hlocal : addrKey x.2.local_ = addrKey sa.localEp) :
    (tcpRebind (env.withConns conns) sa x.2.remote).tcpKey = x.2.key := by
  have hfound : (env.withConns conns).tcpBound x.2.remote sa.localEp = true := by
    refine tcpFindBound_isSome hx hdead ?_
    unfold TcpConn.key bindKey
    rw [hlocal]
  have hrebinds : tcpRebinds (env.withConns conns) sa x.2.remote
      = !sameEndpoint x.2.remote sa.remoteEp := by
    unfold tcpRebinds
    rw [htcp, hinit, sameAddr_iff.mpr haddr, hfound]
    simp
  unfold tcpRebind Sa.tcpKey TcpConn.key bindKey
  rw [hrebinds]
  split
  · rw [hlocal]
  · rename_i hsame
    rw [Bool.not_eq_true, Bool.not_eq_false'] at hsame
    have hport := beq_iff_eq.mp (Bool.and_eq_true_iff.mp hsame).2
    rw [haddr, hport, hlocal]

theorem followsChild_tcpRebind : (tcpRebind env sa remote).followsChild = sa.followsChild := by
  unfold tcpRebind Sa.followsChild
  split <;> rfl

theorem createChildEndpoints_key (hfollows : sa.followsChild = true) :
    (createChildEndpoints sa remote local_).tcpKey = bindKey remote local_ := by
  unfold Sa.followsChild at hfollows
  rw [Bool.not_eq_true'] at hfollows
  unfold createChildEndpoints
  rw [hfollows]
  rfl

theorem createChildEndpoints_stays (hfollows : sa.followsChild = false) :
    createChildEndpoints sa remote local_ = sa := by
  unfold Sa.followsChild at hfollows
  rw [Bool.not_eq_false'] at hfollows
  unfold createChildEndpoints
  rw [if_pos hfollows]

theorem addrKey_floatPort (a : Endpoint) : addrKey (floatPort sa a) = addrKey a := by
  unfold floatPort
  split <;> rfl

/-- a port that does not float is the one that the SA has after a move -/
theorem moveSa_key (hport : (sa.behindNat || sa.peerBehindNat) = true → remote.port ≠ udpPort)
    (hmoves : env.migrated = true ∨ sa.tcpKey = bindKey remote local_) :
    (moveSa env sa remote local_).tcpKey = bindKey remote local_ := by
  have hfloat : floatPort sa remote = remote := by
    unfold floatPort
    rw [if_neg]
    intro h
    obtain ⟨hnat, heq⟩ := Bool.and_eq_true_iff.mp h
    exact hport hnat (beq_iff_eq.mp heq)
  unfold moveSa
  dsimp only
  rw [hfloat]
  split
  · rename_i hsame
    obtain ⟨hremote, hlocal⟩ := Bool.and_eq_true_iff.mp hsame
    obtain ⟨hra, hrp⟩ := Bool.and_eq_true_iff.mp hremote
    obtain ⟨hla, -⟩ := Bool.and_eq_true_iff.mp hlocal
    unfold Sa.tcpKey bindKey
    rw [sameAddr_iff.mp hra, beq_iff_eq.mp hrp, sameAddr_iff.mp hla, addrKey_floatPort]
  · split
    · rename_i hstays
      rw [Bool.not_eq_true'] at hstays
      refine hmoves.resolve_left ?_
      rw [hstays]
      exact Bool.false_ne_true
    · show bindKey remote (floatPort sa local_) = _
      unfold bindKey
      rw [addrKey_floatPort]

/-- after an authentic message that fits, the SA is at the endpoints of its stream -/
theorem receiveSa_key {x : Nat × TcpConn} (hx : x ∈ conns) (htcp : sa.tcpEncap = true)
    (hinit : sa.isInitiator = false) (hstate : sa.state = .established) {receipt : Receipt}
    (hauth : receipt.authentic = true) (hfits : receiptFits sa x.2 receipt) :
    (receiveSa conns sa x.2 receipt).tcpKey = x.2.key := by
  cases receipt with
  | forged => cases hauth
  | ignored => exact hfits.2.symm
  | handled env packet body =>
    obtain ⟨hdead, haddr, hbody⟩ := hfits
    have hrebound : addrKey x.2.local_ = addrKey sa.localEp →
        (tcpRebind (env.withConns conns) sa x.2.remote).tcpKey = x.2.key :=
      tcpRebind_key hx hdead htcp hinit haddr
    show (bodySa env (followSource (env.withConns conns) sa packet x.2.remote x.2.local_) x.2.remote
      x.2.local_ body).tcpKey = x.2.key
    rw [followSource_tcp htcp hstate haddr]
    cases body with
    | createChild =>
      cases hfollows : sa.followsChild with
      | true => exact createChildEndpoints_key (followsChild_tcpRebind.trans hfollows)
      | false =>
        have hlocal := hbody.resolve_right (by rw [hfollows]; exact Bool.false_ne_true)
        show (createChildEndpoints _ x.2.remote x.2.local_).tcpKey = _
        rw [createChildEndpoints_stays (followsChild_tcpRebind.trans hfollows)]
        exact hrebound hlocal
    | updateAddresses behindNat peerBehindNat =>
      obtain ⟨hlocal, hport⟩ := hbody
      unfold bodySa
      dsimp only
      split
      · rename_i hmobike
        rw [tcpRebind_tcpSameKind.mobike] at hmobike
        refine moveSa_key (hport hmobike) ?_
        exact hlocal.symm.imp And.right hrebound
      · rename_i hmobike
        rw [tcpRebind_tcpSameKind.mobike] at hmobike
        exact hrebound (hlocal.resolve_right fun h => hmobike h.1)
    | other => exact hrebound hbody

end

/-! ## the invariant -/

/-- a live stream at the endpoints of an SA is the one that its peer last used -/
structure RouteInv (s : RouteState) : Prop where
  lt : ∀ c ∈ s.conns, c.1 < s.fresh
  single : ∀ c ∈ s.conns, ∀ c' ∈ s.conns, c.2.dead = false → c'.2.dead = false →
    c.2.key = c'.2.key → c = c'
  bound : ∀ r ∈ s.sas, r.sa.tcpEncap = true →
    ∀ c ∈ s.conns, c.2.dead = false → c.2.key = r.sa.tcpKey → c.1 = r.last
  own : ∀ r ∈ s.sas, r.sa.tcpEncap = true → s.owner r.last = r.client ∧ r.last < s.fresh
  kind : ∀ r ∈ s.sas, r.sa.isInitiator = false ∧ r.sa.state = .established
  writes : ∀ w ∈ s.writes, w.stream = w.last ∧ s.owner w.stream = w.client ∧ w.stream < s.fresh

section
variable {s : RouteState}

theorem routeInv_init : RouteInv routeInit where
  lt c hc := by cases hc
  single c hc := by cases hc
  bound r hr := by cases hr
  own r hr := by cases hr
  kind r hr := by cases hr
  writes w hw := by cases hw

theorem RouteInv.right (h : RouteInv s) : RoutedRight s :=
  fun w hw => ⟨(h.writes w hw).1, (h.writes w hw).2.1⟩

/-- streams die or go -/
theorem RouteInv.shrink (h : RouteInv s) {conns : List (Nat × TcpConn)}
    (hlt : ∀ c ∈ conns, c.1 < s.fresh) (hlive : ∀ c ∈ conns, c.2.dead = false → c ∈ s.conns) :
    RouteInv { s with conns := conns } :=
  { h with
    lt := hlt
    single := fun c hc c' hc' hdead hdead' =>
      h.single c (hlive c hc hdead) c' (hlive c' hc' hdead') hdead hdead'
    bound := fun r hr htcp c hc hdead => h.bound r hr htcp c (hlive c hc hdead) hdead }

theorem RouteInv.markDead (h : RouteInv s) (c : Nat) :
    RouteInv { s with conns := tcpMarkDead s.conns c } := by
  refine h.shrink ?_ ?_
  · intro x hx
    obtain ⟨y, hy, rfl⟩ := List.mem_map.mp hx
    split
    · exact h.lt y hy
    · exact h.lt y hy
  · intro x hx hdead
    obtain ⟨y, hy, rfl⟩ := List.mem_map.mp hx
    split at hdead
    · cases hdead
    · rename_i hne
      rw [if_neg hne]
      exact hy

theorem RouteInv.reap (h : RouteInv s) (c : Nat) :
    RouteInv { s with conns := remove Prod.fst s.conns c } :=
  h.shrink (fun x hx => h.lt x (mem_remove hx).1) fun x hx _ => (mem_remove hx).1

theorem RouteInv.connect (h : RouteInv s) (client : Nat) (connecting : Bool) {remote local_ : Endpoint}
    (hconns : ∀ c ∈ s.conns, c.2.dead = false → c.2.key ≠ bindKey remote local_)
    (hsas : ∀ r ∈ s.sas, r.sa.tcpEncap = true → r.sa.tcpKey ≠ bindKey remote local_) :
    RouteInv (tcpConnect s client connecting remote local_) := by
  have howner : ∀ c, c < s.fresh → Function.update s.owner s.fresh client c = s.owner c :=
    fun c hlt => Function.update_of_ne (Nat.ne_of_lt hlt) _ _
  unfold tcpConnect
  split
  · exact h
  · refine ⟨?_, ?_, ?_, ?_, h.kind, ?_⟩
    · intro c hc
      rcases List.mem_cons.mp hc with rfl | hc
      · exact Nat.lt_succ_self s.fresh
      · exact Nat.lt_succ_of_lt (h.lt c hc)
    · intro c hc c' hc' hdead hdead' hkey
      rcases List.mem_cons.mp hc with rfl | hc <;> rcases List.mem_cons.mp hc' with rfl | hc'
      · rfl
      · exact absurd hkey.symm (hconns c' hc' hdead')
      · exact absurd hkey (hconns c hc hdead)
      · exact h.single c hc c' hc' hdead hdead' hkey
    · intro r hr htcp c hc hdead hkey
      rcases List.mem_cons.mp hc with rfl | hc
      · exact absurd hkey.symm (hsas r hr htcp)
      · exact h.bound r hr htcp c hc hdead hkey
    · intro r hr htcp
      obtain ⟨hown, hlt⟩ := h.own r hr htcp
      exact ⟨(howner r.last hlt).trans hown, Nat.lt_succ_of_lt hlt⟩
    · intro w hw
      obtain ⟨hlast, hown, hlt⟩ := h.writes w hw
      exact ⟨hlast, (howner w.stream hlt).trans hown, Nat.lt_succ_of_lt hlt⟩

/-- an SA that is bound to a live stream -/
theorem RouteInv.bound_of_key (h : RouteInv s) {x : Nat × TcpConn} (hx : x ∈ s.conns)
    (hdead : x.2.dead = false) {sa : Sa} (hkey : sa.tcpKey = x.2.key) :
    ∀ c ∈ s.conns, c.2.dead = false → c.2.key = sa.tcpKey → c.1 = x.1 :=
  fun c hc hlive heq => congrArg Prod.fst (h.single c hc x hx hlive hdead (heq.trans hkey))

theorem authSa_key {sa : Sa} {child : Bool} {conn : TcpConn}
    (hfits : child = true ∧ sa.followsChild = true ∨ conn.key = sa.tcpKey) :
    (authSa sa child conn).tcpKey = conn.key := by
  unfold authSa
  cases hchild : child with
  | false =>
    rw [if_neg Bool.false_ne_true]
    refine (hfits.resolve_left ?_).symm
    rw [hchild]
    exact fun hand => Bool.false_ne_true hand.1
  | true =>
    rw [if_pos rfl]
    cases hfollows : sa.followsChild with
    | true => exact createChildEndpoints_key (show sa.established.followsChild = true from hfollows)
    | false =>
      rw [createChildEndpoints_stays (show sa.established.followsChild = false from hfollows)]
      refine (hfits.resolve_left ?_).symm
      rw [hfollows]
      exact fun hand => Bool.false_ne_true hand.2

theorem authSa_kind (sa : Sa) (child : Bool) (conn : TcpConn) :
    (authSa sa child conn).isInitiator = false ∧ (authSa sa child conn).state = .established := by
  unfold authSa createChildEndpoints
  split
  · split
    · exact ⟨rfl, rfl⟩
    · exact ⟨rfl, rfl⟩
  · exact ⟨rfl, rfl⟩

theorem RouteInv.establish (h : RouteInv s) (i : Nat) {sa : Sa} {child : Bool} {x : Nat × TcpConn}
    (hx : x ∈ s.conns) (hdead : x.2.dead = false)
    (hfits : child = true ∧ sa.followsChild = true ∨ x.2.key = sa.tcpKey) :
    RouteInv (establishSa s i sa child x) := by
  have hkey : (authSa sa child x.2).tcpKey = x.2.key := authSa_key hfits
  refine { h with bound := ?_, own := ?_, kind := ?_ }
  · intro r hr htcp
    rcases List.mem_cons.mp hr with rfl | hr
    · exact h.bound_of_key hx hdead hkey
    · exact h.bound r (mem_remove hr).1 htcp
  · intro r hr htcp
    rcases List.mem_cons.mp hr with rfl | hr
    · exact ⟨rfl, h.lt x hx⟩
    · exact h.own r (mem_remove hr).1 htcp
  · intro r hr
    rcases List.mem_cons.mp hr with rfl | hr
    · exact authSa_kind sa child x.2
    · exact h.kind r (mem_remove hr).1

theorem receiptFits_live {sa : Sa} {conn : TcpConn} {receipt : Receipt}
    (hauth : receipt.authentic = true) (hfits : receiptFits sa conn receipt) : conn.dead = false := by
  cases receipt with
  | forged => cases hauth
  | ignored => exact hfits.1
  | handled env packet body => exact hfits.1

theorem receiveOn_cases (s : RouteState) (r : RouteSa) (x : Nat × TcpConn) (receipt : Receipt) :
    receiveOn s r x receipt = s ∨
    (receipt.authentic = true ∧ receiveOn s r x receipt
      = { s with
          sas := replace RouteSa.id s.sas
            { r with sa := receiveSa s.conns r.sa x.2 receipt, last := x.1 } }) := by
  cases receipt with
  | forged => exact .inl rfl
  | ignored => exact .inr ⟨rfl, rfl⟩
  | handled env packet body => exact .inr ⟨rfl, rfl⟩

theorem RouteInv.receive (h : RouteInv s) {r : RouteSa} (hr : r ∈ s.sas) {x : Nat × TcpConn}
    (hx : x ∈ s.conns) {receipt : Receipt}
    (hfits : r.sa.tcpEncap = true → receiptFits r.sa x.2 receipt ∧
      (receipt.authentic = true → s.owner x.1 = r.client)) :
    RouteInv (receiveOn s r x receipt) := by
  obtain heq | ⟨hauth, heq⟩ := receiveOn_cases s r x receipt
  · rw [heq]
    exact h
  · rw [heq]
    have hkind : TcpSameKind r.sa (receiveSa s.conns r.sa x.2 receipt) := receiveSa_tcpSameKind receipt
    obtain ⟨hinit, hstate⟩ := h.kind r hr
    refine { h with bound := ?_, own := ?_, kind := ?_ }
    · intro r' hr' htcp
      rcases mem_replace hr' with rfl | ⟨hr', -⟩
      · have htcp : r.sa.tcpEncap = true := hkind.tcpEncap.symm.trans htcp
        have hlive := receiptFits_live hauth (hfits htcp).1
        exact h.bound_of_key hx hlive (receiveSa_key hx htcp hinit hstate hauth (hfits htcp).1)
      · exact h.bound r' hr' htcp
    · intro r' hr' htcp
      rcases mem_replace hr' with rfl | ⟨hr', -⟩
      · have htcp : r.sa.tcpEncap = true := hkind.tcpEncap.symm.trans htcp
        exact ⟨(hfits htcp).2 hauth, h.lt x hx⟩
      · exact h.own r' hr' htcp
    · intro r' hr'
      rcases mem_replace hr' with rfl | ⟨hr', -⟩
      · exact ⟨hkind.isInitiator.trans hinit, hkind.state.trans hstate⟩
      · exact h.kind r' hr'

/-- with no address to fall back on, a message rides the bound stream or none -/
theorem ikev2TcpRoute_bound {conns : List (Nat × TcpConn)} {sa : Sa} {ends : Option (Endpoint × Endpoint)}
    {ts : Nat × TcpConn}
    (hok : sa.tcpEncap = true → tcpFindBound conns sa.remoteEp sa.localEp ≠ none ∨
      (ends.bind fun ends => tcpFind conns ends.1 ends.2) = none)
    (h : ikev2TcpRoute conns (some sa) ends = some ts) :
    sa.tcpEncap = true ∧ tcpFindBound conns sa.remoteEp sa.localEp = some ts := by
  unfold ikev2TcpRoute at h
  cases htcp : sa.tcpEncap with
  | false =>
    rw [if_pos (by simp [htcp])] at h
    cases h
  | true =>
    rw [if_neg (by simp [htcp])] at h
    refine ⟨rfl, ?_⟩
    cases hbound : tcpFindBound conns sa.remoteEp sa.localEp with
    | some x =>
      rw [Option.bind_some, hbound, Option.some_or] at h
      exact h
    | none =>
      have hnone := (hok htcp).resolve_left fun hne => hne hbound
      rw [Option.bind_some, hbound, Option.none_or, hnone] at h
      cases h

theorem RouteInv.send (h : RouteInv s) {r : RouteSa} (hr : r ∈ s.sas)
    (ends : Option (Endpoint × Endpoint)) (result : SendResult)
    (hok : r.sa.tcpEncap = true → tcpFindBound s.conns r.sa.remoteEp r.sa.localEp ≠ none ∨
      (ends.bind fun ends => tcpFind s.conns ends.1 ends.2) = none) :
    RouteInv (ikev2TcpSend s r ends result) := by
  unfold ikev2TcpSend
  cases hroute : ikev2TcpRoute s.conns (some r.sa) ends with
  | none => exact h
  | some ts =>
    obtain ⟨htcp, hbound⟩ := ikev2TcpRoute_bound hok hroute
    obtain ⟨hmem, hdead, hkey⟩ := tcpFindBound_some hbound
    have hlast : ts.1 = r.last := h.bound r hr htcp ts hmem hdead hkey
    obtain ⟨hown, hlt⟩ := h.own r hr htcp
    have hconns : RouteInv { s with
        conns := if result = .fatal then tcpMarkDead s.conns ts.1 else s.conns } := by
      split
      · exact h.markDead ts.1
      · exact h
    refine { hconns with writes := ?_ }
    intro w hw
    dsimp only at hw
    split at hw
    · exact h.writes w hw
    · rcases List.mem_cons.mp hw with rfl | hw
      · exact ⟨hlast, hlast ▸ hown, hlast ▸ hlt⟩
      · exact h.writes w hw

theorem RouteInv.step (h : RouteInv s) (e : RouteEvent) (hok : RouteOk s e) :
    RouteInv (routeStep s e) := by
  cases e with
  | connect client connecting remote local_ => exact h.connect client connecting hok.1 hok.2
  | teardown c => exact h.markDead c
  | reap c => exact h.reap c
  | establish i sa child c =>
    unfold routeStep
    dsimp only
    split
    · exact h
    · rename_i x hx
      obtain ⟨hdead, hfits⟩ := hok x hx
      exact h.establish i (mem_of_find hx).1 hdead hfits
  | receive i c receipt =>
    unfold routeStep
    dsimp only
    split
    · rename_i r x hr hx
      exact h.receive (mem_of_find hr).1 (mem_of_find hx).1 (hok r hr x hx)
    · exact h
  | send i ends result =>
    unfold routeStep
    dsimp only
    split
    · exact h
    · rename_i r hr
      exact h.send (mem_of_find hr).1 ends result (hok r hr)
  | forget i =>
    exact { h with
      bound := fun r hr => h.bound r (mem_remove hr).1
      own := fun r hr => h.own r (mem_remove hr).1
      kind := fun r hr => h.kind r (mem_remove hr).1 }

/-! ## the stream of a response -/

/-- the sockets of a responder, with the stream that `ikev2_tcp_route` finds for a response of `sa` -/
def RouteState.sockets (s : RouteState) (bound : List Endpoint) (interface : Endpoint → Option Endpoint)
    (sa : Sa) (ends : Option (Endpoint × Endpoint)) : Sockets :=
  ⟨bound, (ikev2TcpRoute s.conns (some sa) ends).map fun x => ⟨x.2.local_, x.2.remote⟩, interface⟩

/-- what the body of a handler did with the endpoints before its response -/
def Answer.body {packet : Bytes} : Answer packet → Option Body
  | .createChild => some .createChild
  | .rekeyIkeSa => some .other
  | .followupKe => some .other
  | .followupRekey _ _ => some .other
  | .error => some .other
  | _ => none

/-- the SA of a response is the one that the message left -/
theorem answer_sa_eq {net : Sockets} (req : Incoming net) (env : Env) (conns : List (Nat × TcpConn))
    (sa : Sa) {conn : TcpConn} (hlocal : req.local_ = conn.local_) (hremote : req.remote = conn.remote)
    {a : Answer req.packet} {body : Body} (hbody : a.body = some body) :
    a.sa (env.withConns conns) none req sa = receiveSa conns sa conn (.handled env req.packet body) := by
  unfold receiveSa
  rw [← hlocal, ← hremote]
  cases a with
  | createChild =>
    obtain rfl := Option.some.inj hbody
    rfl
  | rekeyIkeSa =>
    obtain rfl := Option.some.inj hbody
    rfl
  | followupKe =>
    obtain rfl := Option.some.inj hbody
    rfl
  | followupRekey local_ remote =>
    obtain rfl := Option.some.inj hbody
    rfl
  | error =>
    obtain rfl := Option.some.inj hbody
    rfl
  | notify => cases hbody
  | saInit => cases hbody
  | sessionResume => cases hbody
  | intermediate => cases hbody
  | authRound => cases hbody
  | auth => cases hbody
  | informational request update => cases hbody

theorem RouteInv.response_stream (h : RouteInv s) {r : RouteSa} (hr : r ∈ s.sas)
    (htcp : r.sa.tcpEncap = true) {x : Nat × TcpConn} (hx : x ∈ s.conns) {receipt : Receipt}
    (hauth : receipt.authentic = true) (hfits : receiptFits r.sa x.2 receipt)
    (ends : Option (Endpoint × Endpoint)) :
    ikev2TcpRoute s.conns (some (receiveSa s.conns r.sa x.2 receipt)) ends = some x := by
  obtain ⟨hinit, hstate⟩ := h.kind r hr
  have hkey : (receiveSa s.conns r.sa x.2 receipt).tcpKey = x.2.key :=
    receiveSa_key hx htcp hinit hstate hauth hfits
  have hkind : TcpSameKind r.sa (receiveSa s.conns r.sa x.2 receipt) := receiveSa_tcpSameKind receipt
  have hlive := receiptFits_live hauth hfits
  generalize receiveSa s.conns r.sa x.2 receipt = sa at hkey hkind
  have hfound : (tcpFindBound s.conns sa.remoteEp sa.localEp).isSome = true :=
    tcpFindBound_isSome hx hlive hkey.symm
  obtain ⟨y, hy⟩ := Option.isSome_iff_exists.mp hfound
  obtain ⟨hmem, hdead, hykey⟩ := tcpFindBound_some hy
  have hsame : y = x := h.single y hmem x hx hdead hlive (hykey.trans hkey)
  have hencap : sa.tcpEncap = true := hkind.tcpEncap.trans htcp
  unfold ikev2TcpRoute
  rw [if_neg (by simp [hencap]), Option.bind_some, hy, hsame]
  rfl

/-- a request that fits its SA is answered on the stream that it came on: there `Sockets.stream` is what
`responses_go_back` asks of it -/
theorem RouteInv.response_onStream (h : RouteInv s) {r : RouteSa} (hr : r ∈ s.sas)
    (htcp : r.sa.tcpEncap = true) {x : Nat × TcpConn} (hx : x ∈ s.conns) {env : Env} {packet : Bytes}
    {body : Body} (hfits : receiptFits r.sa x.2 (.handled env packet body)) (bound : List Endpoint)
    (interface : Endpoint → Option Endpoint) (ends : Option (Endpoint × Endpoint))
    (req : Incoming (s.sockets bound interface
      (receiveSa s.conns r.sa x.2 (.handled env packet body)) ends))
    (hpacket : req.packet = packet) (hlocal : req.local_ = x.2.local_) (hremote : req.remote = x.2.remote)
    {a : Answer req.packet} (hbody : a.body = some body) (udp : Prop) :
    a.sa (env.withConns s.conns) none req r.sa
        = receiveSa s.conns r.sa x.2 (.handled env packet body)
      ∧ OnStream req (a.sa (env.withConns s.conns) none req r.sa).tcpEncap udp := by
  have hsa : a.sa (env.withConns s.conns) none req r.sa
      = receiveSa s.conns r.sa x.2 (.handled env packet body) := by
    rw [answer_sa_eq req env s.conns r.sa hlocal hremote hbody, hpacket]
  have hkind : TcpSameKind r.sa (receiveSa s.conns r.sa x.2 (.handled env packet body)) :=
    receiveSa_tcpSameKind _
  have hstream : (s.sockets bound interface (receiveSa s.conns r.sa x.2 (.handled env packet body))
      ends).stream = some ⟨x.2.local_, x.2.remote⟩ := by
    show Option.map _ _ = _
    rw [h.response_stream hr htcp hx rfl hfits ends]
    rfl
  refine ⟨hsa, ?_⟩
  rw [hsa, hkind.tcpEncap, htcp]
  unfold OnStream
  rw [if_pos rfl, hstream]
  refine ⟨?_, ?_⟩
  · rw [hlocal]
    exact Same.refl x.2.local_
  · rw [hremote]
    exact Same.refl x.2.remote

end

/-- in every run whose steps meet the condition no message rides another client's stream -/
theorem tcp_route_keeps_clients_apart (es : List RouteEvent)
    (hok : Run.Meets routeStep RouteOk routeInit es) :
    ∀ s ∈ Run.states routeStep routeInit es, RoutedRight s := by
  intro s hs
  exact (Run.states_inv (fun s e h hok => h.step e hok) es routeInit routeInv_init hok s hs).right

/-! ## two clients behind one NAT -/

def gateway : Endpoint := .v4 192 0 2 1 4500

/-- a client's end of its stream -/
def natPort (port : Nat) : Endpoint := .v4 203 0 113 7 port

/-- the SA of a client at a port -/
def natSa (port : Nat) : Sa :=
  { Sa.allocate false [] [] gateway (natPort port) with tcpEncap := true, peerBehindNat := true }

/-- each client establishes an SA over its stream -/
def twoClients : List RouteEvent :=
  [.connect 0 false (natPort 4001) gateway, .connect 1 false (natPort 4002) gateway,
    .establish 0 (natSa 4001) true 0, .establish 1 (natSa 4002) true 1]

/-- the first client connects again, and is answered there -/
def reconnectRun : List RouteEvent :=
  twoClients ++ [.send 0 (some (natPort 4001, gateway)) .queued, .reap 0,
    .connect 0 false (natPort 4003) gateway, .receive 0 2 (.handled (Env.calm 0) [] .other),
    .send 0 (some (natPort 4001, gateway)) .queued]

theorem tcp_route_keeps_clients_apart_reconnect :
    Run.Meets routeStep RouteOk routeInit reconnectRun ∧
    ∀ s ∈ Run.states routeStep routeInit reconnectRun, RoutedRight s := by
  have hok : Run.Meets routeStep RouteOk routeInit reconnectRun := by decide
  exact ⟨hok, tcp_route_keeps_clients_apart reconnectRun hok⟩

/-- the stream of the first client goes, and its SA sends a message -/
def crossedRun : List RouteEvent :=
  twoClients ++ [.reap 0, .send 0 (some (natPort 4001, gateway)) .queued]

/-- the second client sends a message of the first client's SA on over its own stream -/
def relayedRun : List RouteEvent :=
  twoClients ++ [.receive 0 1 (.handled (Env.calm 0) [] .other),
    .send 0 (some (natPort 4001, gateway)) .queued]

theorem tcp_route_crosses_clients :
    (¬ ∀ s ∈ Run.states routeStep routeInit crossedRun, RoutedRight s) ∧
    ¬ ∀ s ∈ Run.states routeStep routeInit relayedRun, RoutedRight s := by
  constructor
  · intro h
    have hlast := h _ (Run.foldl_mem_states crossedRun routeInit)
    have hwrite : (⟨0, 0, 1⟩ : TcpWrite) ∈ (crossedRun.foldl routeStep routeInit).writes := by decide
    exact absurd (hlast _ hwrite).1 (by decide)
  · intro h
    have hlast := h _ (Run.foldl_mem_states relayedRun routeInit)
    have hwrite : (⟨0, 1, 1⟩ : TcpWrite) ∈ (relayedRun.foldl routeStep routeInit).writes := by decide
    exact absurd (hlast _ hwrite).2 (by decide)

end Ikev2
