import Racoon2.Iked.Sa

/-!
# Moving an IKE SA to other endpoints

`ikev2_move_sa` moves an IKE SA and the kernel SAs of its children to other endpoints: the peer has told
its new address, or a NAT has mapped it to another port.  `mobike_migrate_children` asks the kernel to
migrate, for the selectors of all children, and the endpoints in memory follow if it was not in vain.

The kernel migrates the SAs with the selector, direction, reqid and endpoints of a request; it may refuse
any request instead, or carry it out and not be heard.

* `mobikeMigrateDir`       one direction of a selector, asked for until nothing is left;
* `migrateSelectors`, `migrateChildrenLoop`   the loops, with the reqids already seen;
* `moveSaImpl`, `ikeMoveSa`   the move;
* `childrenRequests`       what the kernel is asked, as one list;
* `migrateChildrenLoop_requests`   the loops carry out that list.
-/

set_option linter.unusedVariables false

namespace Ikev2
open Bytes

/-! ## the kernel -/

/-- `xfrm_address_t` and its family -/
abbrev KernelAddr := Family × Bytes

def Endpoint.kernel (e : Endpoint) : KernelAddr := (e.family, e.addr)

/-- RCT_DIR_OUTBOUND, RCT_DIR_INBOUND, RCT_DIR_FWD -/
inductive PolicyDir where
  | outbound
  | inbound
  | fwd
  deriving DecidableEq, Repr

/-- an address of a selector, with its prefix length -/
structure SelAddr where
  family : Family
  addr : Bytes
  prefixlen : Nat
  deriving DecidableEq, Repr

/-- a kernel SA of a child, with the policy it is for -/
structure ChildKernelSa where
  dir : PolicyDir
  selSrc : SelAddr
  selDst : SelAddr
  reqid : Nat
  src : KernelAddr
  dst : KernelAddr
  /-- the ports of UDP encapsulation -/
  encap : Option (Nat × Nat)
  deriving DecidableEq, Repr

/-- what becomes of a `sadb_migrate` -/
inductive MigrateReply where
  | ok
  /-- `rc.eno`, and whether `rc.estr` has "No data" -/
  | error (eno : Nat) (noData : Bool)
  /-- it is carried out, but the reply is lost -/
  | lost
  deriving DecidableEq, Repr

def ENOENT : Nat := 2
def ESRCH : Nat := 3

/-- an error that is not taken for "none left" -/
def MigrateReply.fails : MigrateReply → Bool
  | .ok => false
  | .error eno noData => !(eno == ENOENT || eno == ESRCH || noData)
  | .lost => true

/-- the kernel has done it -/
def MigrateReply.carried : MigrateReply → Bool
  | .error _ _ => false
  | _ => true

/-! ## what a move needs -/

/-- RCT_IPSM_TUNNEL, RCT_IPSM_TRANSPORT -/
inductive SaMode where
  | tunnel
  | transport
  deriving DecidableEq, Repr

/-- `struct rcf_selector` -/
structure MoveSelector where
  /-- `ike_ipsec_mode(pl)` -/
  pl : Option SaMode
  /-- the addresses, if they are of type RCT_ADDR_INET -/
  src : Option SelAddr
  dst : Option SelAddr
  inbound : Bool
  reqid : Nat
  deriving DecidableEq, Repr

structure MoveChild where
  selectors : List MoveSelector
  leases : List SelAddr
  localEnd : Endpoint
  remote : Endpoint
  deriving DecidableEq, Repr

/-- an IKE SA and its kernel SAs -/
structure MoveState where
  localEnd : Endpoint
  remote : Endpoint
  children : List MoveChild
  /-- source and destination of `transmit_info` and `response_info`, if they are armed -/
  transmitInfo : Option (Endpoint × Endpoint)
  responseInfo : Option (Endpoint × Endpoint)
  behindNat : Bool
  peerBehindNat : Bool
  /-- `ikev2_tcp_encap` and RCT_NATT_FORCE of the configuration -/
  tcpEncap : Bool
  nattForce : Bool
  sad : List ChildKernelSa
  deriving DecidableEq, Repr

/-- what a migration does about UDP encapsulation -/
inductive EncapReq where
  | keep
  /-- PFK_FLAG_NOENCAP -/
  | strip
  | ports (sport dport : Nat)
  deriving DecidableEq, Repr

/-- `ikev2_mobike_natt` -/
def mobikeNatt (s : MoveState) (nSrc nDst : Endpoint) : EncapReq :=
  if s.tcpEncap then .ports 4500 4500
  else if nSrc.port = 500 ∧ nDst.port = 500 then .keep
  else if !s.behindNat && !s.peerBehindNat && !s.nattForce then .strip
  else .ports nSrc.port nDst.port

/-- what all requests of a move have in common -/
structure MoveEnv where
  state : MoveState
  localEnd : Endpoint
  remote : Endpoint

/-- source and destination before the move -/
def MoveEnv.old (e : MoveEnv) : PolicyDir → KernelAddr × KernelAddr
  | .outbound => (e.state.localEnd.kernel, e.state.remote.kernel)
  | _ => (e.state.remote.kernel, e.state.localEnd.kernel)

/-- and after it -/
def MoveEnv.new (e : MoveEnv) : PolicyDir → KernelAddr × KernelAddr
  | .outbound => (e.localEnd.kernel, e.remote.kernel)
  | _ => (e.remote.kernel, e.localEnd.kernel)

def MoveEnv.encap (e : MoveEnv) : PolicyDir → EncapReq
  | .outbound => mobikeNatt e.state e.localEnd e.remote
  | _ => mobikeNatt e.state e.remote e.localEnd

/-- no kernel address changes, as when a NAT maps the peer to another port -/
def MoveEnv.again (e : MoveEnv) : Bool :=
  e.localEnd.kernel == e.state.localEnd.kernel && e.remote.kernel == e.state.remote.kernel

/-- the arguments of `ikev2_mobike_migrate_dir` -/
structure MigrateRequest where
  dir : PolicyDir
  spSrc : SelAddr
  spDst : SelAddr
  reqid : Nat
  deriving DecidableEq, Repr

/-- the replies to the requests, and to each repetition of one -/
abbrev MigrateReplies := Nat → Nat → MigrateReply

section
variable (e : MoveEnv)

/-- the kernel migrates the SA -/
def MigrateRequest.hits (q : MigrateRequest) (x : ChildKernelSa) : Bool :=
  x.dir == q.dir && x.selSrc == q.spSrc && x.selDst == q.spDst && (q.reqid == 0 || x.reqid == q.reqid)
    && (x.src, x.dst) == e.old q.dir

def EncapReq.apply : EncapReq → Option (Nat × Nat) → Option (Nat × Nat)
  | .keep, old => old
  | .strip, _ => none
  | .ports sport dport, _ => some (sport, dport)

/-- the SA on the new endpoints -/
def ChildKernelSa.move (x : ChildKernelSa) : ChildKernelSa :=
  { x with
    src := (e.new x.dir).1
    dst := (e.new x.dir).2
    encap := (e.encap x.dir).apply x.encap }

/-- a request the kernel carries out -/
def migrateAll (q : MigrateRequest) (sad : List ChildKernelSa) : List ChildKernelSa :=
  sad.map fun x => if q.hits e x then x.move e else x

/-- `ikev2_mobike_migrate_dir` after `moved` migrations; -1 is `none` -/
def migrateDirLoop (q : MigrateRequest) (reply : Nat → MigrateReply) :
    Nat → Nat → List ChildKernelSa → List ChildKernelSa × Option Nat
  | 0, moved, sad => (sad, some moved)
  | fuel + 1, moved, sad =>
    let sad' := if (reply moved).carried then migrateAll e q sad else sad
    if reply moved = .ok ∧ sad.any (q.hits e) then migrateDirLoop q reply fuel (moved + 1) sad'
    else if (reply moved).fails then (sad', none)
    else (sad', some moved)

/-- `ikev2_mobike_migrate_dir`: eight migrations at most -/
def mobikeMigrateDir (q : MigrateRequest) (reply : Nat → MigrateReply) (sad : List ChildKernelSa) :
    List ChildKernelSa × Option Nat := migrateDirLoop e q reply 8 0 sad

/-! ## the loops -/

/-- the two or three requests for a selector; `none` is a selector that is passed over -/
def selectorRequests (lease : Option SelAddr) (cs : MoveSelector) : Option (List MigrateRequest) :=
  match cs.pl, cs.src, cs.dst with
  | some mode, some src, some dst =>
    let lan := if cs.inbound then dst else src
    let inner := lease.getD (if cs.inbound then src else dst)
    some ([⟨.outbound, lan, inner, cs.reqid⟩, ⟨.inbound, inner, lan, cs.reqid⟩] ++
      if mode = .tunnel then [⟨.fwd, inner, lan, cs.reqid⟩] else [])
  | _, _, _ => none

/-- the kernel SAs, what was moved, and the number of requests so far -/
structure Moves where
  sad : List ChildKernelSa
  moved : Nat
  calls : Nat
  deriving DecidableEq, Repr

/-- one request after the other, up to an error -/
def migrateDirs (replies : MigrateReplies) : List MigrateRequest → Moves → Moves × Bool
  | [], w => (w, false)
  | q :: qs, w =>
    let r := mobikeMigrateDir e q (replies w.calls) w.sad
    match r.2 with
    | none => (⟨r.1, w.moved, w.calls + 1⟩, true)
    | some m => migrateDirs replies qs ⟨r.1, w.moved + m, w.calls + 1⟩

/-- the reqids in `seen` -/
structure ReqidWalk where
  moves : Moves
  seen : List Nat
  saw : Bool
  deriving DecidableEq, Repr

/-- `seen[nseen++]`, sixteen at most -/
def addSeen (seen : List Nat) (reqid : Nat) : List Nat :=
  if seen.length < 16 then seen ++ [reqid] else seen

/-- the selectors of a child -/
def migrateSelectors (replies : MigrateReplies) (lease : Option SelAddr) :
    List MoveSelector → ReqidWalk → ReqidWalk × Bool
  | [], w => (w, false)
  | cs :: rest, w =>
    match selectorRequests lease cs with
    | none => migrateSelectors replies lease rest w
    | some qs =>
      if cs.reqid ∈ w.seen then migrateSelectors replies lease rest w
      else
        let r := migrateDirs e replies qs w.moves
        if r.2 then (⟨r.1, addSeen w.seen cs.reqid, true⟩, true)
        else migrateSelectors replies lease rest ⟨r.1, addSeen w.seen cs.reqid, true⟩

/-- the children; the first lease stands for the inner address -/
def migrateChildrenLoop (replies : MigrateReplies) : List MoveChild → ReqidWalk → ReqidWalk × Bool
  | [], w => (w, false)
  | c :: cs, w =>
    let r := migrateSelectors e replies c.leases.head? c.selectors w
    if r.2 then r else migrateChildrenLoop replies cs r.1

/-- `mobike_migrate_children`: the kernel SAs, and whether it returns 0 -/
def mobikeMigrateChildren (replies : MigrateReplies) : List ChildKernelSa × Bool :=
  let r := migrateChildrenLoop e replies e.state.children ⟨⟨e.state.sad, 0, 0⟩, [], false⟩
  (r.1.moves.sad, !(r.2 || r.1.saw && r.1.moves.moved == 0))

/-! ## the move -/

/-- the new endpoints in memory -/
def commitMove (sad : List ChildKernelSa) : MoveState :=
  { e.state with
    localEnd := e.localEnd
    remote := e.remote
    children := e.state.children.map fun c => { c with localEnd := e.localEnd, remote := e.remote }
    transmitInfo := e.state.transmitInfo.map fun _ => (e.localEnd, e.remote)
    responseInfo := e.state.responseInfo.map fun _ => (e.localEnd, e.remote)
    sad := sad }

/-- `migrate_kernel` -/
inductive MigrateKernel where
  | no
  | yes
  | again
  deriving DecidableEq, Repr

/-- `ikev2_move_sa_impl`: the state, and whether it returns 0 -/
def moveSaImpl (kind : MigrateKernel) (replies : MigrateReplies) : MoveState × Bool :=
  if kind ≠ .again ∧ sameEndpoint e.state.remote e.remote ∧ sameEndpoint e.state.localEnd e.localEnd then
    (e.state, true)
  else if kind = .no then (commitMove e e.state.sad, true)
  else
    let r := mobikeMigrateChildren e replies
    if r.2 then (commitMove e r.1, true) else ({ e.state with sad := r.1 }, false)

end

/-- port 500 becomes 4500 -/
def natFloatPort (s : MoveState) (p : Endpoint) : Endpoint :=
  if (s.behindNat || s.peerBehindNat) ∧ p.port = 500 then { p with port := 4500 } else p

/-- `ikev2_move_sa` -/
def ikeMoveSa (s : MoveState) (remote localEnd : Endpoint) (kind : MigrateKernel) (replies : MigrateReplies) :
    MoveState × Bool :=
  moveSaImpl ⟨s, natFloatPort s localEnd, natFloatPort s remote⟩ kind replies

/-! ## the requests as one list -/

/-- the requests for the selectors of a child, and the reqids seen after them -/
def selectorsRequests (lease : Option SelAddr) : List MoveSelector → List Nat → List MigrateRequest × List Nat
  | [], seen => ([], seen)
  | cs :: rest, seen =>
    match selectorRequests lease cs with
    | none => selectorsRequests lease rest seen
    | some qs =>
      if cs.reqid ∈ seen then selectorsRequests lease rest seen
      else
        let r := selectorsRequests lease rest (addSeen seen cs.reqid)
        (qs ++ r.1, r.2)

/-- the requests for all children -/
def childrenRequests : List MoveChild → List Nat → List MigrateRequest
  | [], _ => []
  | c :: cs, seen =>
    let r := selectorsRequests c.leases.head? c.selectors seen
    r.1 ++ childrenRequests cs r.2

section
variable {e : MoveEnv} {replies : MigrateReplies}

theorem migrateDirs_none {q : MigrateRequest} {qs : List MigrateRequest} {w : Moves}
    (h : (mobikeMigrateDir e q (replies w.calls) w.sad).2 = none) :
    migrateDirs e replies (q :: qs) w
      = (⟨(mobikeMigrateDir e q (replies w.calls) w.sad).1, w.moved, w.calls + 1⟩, true) := by
  unfold migrateDirs
  dsimp only
  rw [h]

theorem migrateDirs_some {q : MigrateRequest} {qs : List MigrateRequest} {w : Moves} {m : Nat}
    (h : (mobikeMigrateDir e q (replies w.calls) w.sad).2 = some m) :
    migrateDirs e replies (q :: qs) w
      = migrateDirs e replies qs
          ⟨(mobikeMigrateDir e q (replies w.calls) w.sad).1, w.moved + m, w.calls + 1⟩ := by
  rw [migrateDirs, h]

theorem migrateDirs_append (qs qs' : List MigrateRequest) (w : Moves) :
    migrateDirs e replies (qs ++ qs') w
      = if (migrateDirs e replies qs w).2 then migrateDirs e replies qs w
        else migrateDirs e replies qs' (migrateDirs e replies qs w).1 := by
  induction qs generalizing w with
  | nil => rfl
  | cons q qs ih =>
    rw [List.cons_append]
    cases hone : (mobikeMigrateDir e q (replies w.calls) w.sad).2 with
    | none =>
      rw [migrateDirs_none hone, migrateDirs_none hone]
      rfl
    | some m =>
      rw [migrateDirs_some hone, migrateDirs_some hone]
      exact ih _

theorem selectorRequests_ne_nil {lease : Option SelAddr} {cs : MoveSelector} {qs : List MigrateRequest}
    (h : selectorRequests lease cs = some qs) : qs ≠ [] := by
  unfold selectorRequests at h
  split at h
  · cases h
    exact List.cons_ne_nil _ _
  · cases h

/-- a loop over selectors carries out a list of requests -/
structure Carries (e : MoveEnv) (replies : MigrateReplies) (qs : List MigrateRequest) (seen : List Nat)
    (w : ReqidWalk) (r : ReqidWalk × Bool) : Prop where
  moves : (r.1.moves, r.2) = migrateDirs e replies qs w.moves
  seen : r.2 = false → r.1.seen = seen
  saw : r.2 = false → (r.1.saw = true ↔ w.saw = true ∨ qs ≠ [])

theorem Carries.refl (w : ReqidWalk) : Carries e replies [] w.seen w (w, false) :=
  ⟨rfl, fun _ => rfl, fun _ => ⟨.inl, fun h => h.resolve_right fun hne => hne rfl⟩⟩

theorem migrateSelectors_requests (lease : Option SelAddr) (sels : List MoveSelector) (w : ReqidWalk) :
    Carries e replies (selectorsRequests lease sels w.seen).1 (selectorsRequests lease sels w.seen).2 w
      (migrateSelectors e replies lease sels w) := by
  induction sels generalizing w with
  | nil => exact .refl w
  | cons cs rest ih =>
    unfold migrateSelectors selectorsRequests
    cases hreq : selectorRequests lease cs with
    | none => exact ih w
    | some qs =>
      dsimp only
      by_cases hseen : cs.reqid ∈ w.seen
      · rw [if_pos hseen, if_pos hseen]
        exact ih w
      · rw [if_neg hseen, if_neg hseen]
        cases hfail : (migrateDirs e replies qs w.moves).2 with
        | true =>
          rw [if_pos rfl]
          refine ⟨?_, fun hno => (nomatch hno), fun hno => (nomatch hno)⟩
          rw [migrateDirs_append, if_pos hfail, ← hfail]
        | false =>
          obtain ⟨hmoves, hseen', hsaw⟩ :=
            ih ⟨(migrateDirs e replies qs w.moves).1, addSeen w.seen cs.reqid, true⟩
          rw [if_neg Bool.false_ne_true]
          refine ⟨?_, hseen', ?_⟩
          · rw [migrateDirs_append, hfail, if_neg Bool.false_ne_true]
            exact hmoves
          · intro hok
            refine ⟨fun _ => .inr (List.append_ne_nil_of_left_ne_nil (selectorRequests_ne_nil hreq) _), fun _ => ?_⟩
            exact (hsaw hok).mpr (.inl rfl)

/-- the loops carry out the requests of the list -/
theorem migrateChildrenLoop_requests (cs : List MoveChild) (w : ReqidWalk) :
    ∃ seen, Carries e replies (childrenRequests cs w.seen) seen w (migrateChildrenLoop e replies cs w) := by
  induction cs generalizing w with
  | nil => exact ⟨_, .refl w⟩
  | cons c cs ih =>
    have hsel : Carries e replies _ _ w (migrateSelectors e replies c.leases.head? c.selectors w) :=
      migrateSelectors_requests c.leases.head? c.selectors w
    obtain ⟨hmoves, hseen, hsaw⟩ := hsel
    unfold migrateChildrenLoop childrenRequests
    dsimp only
    cases hfail : (migrateSelectors e replies c.leases.head? c.selectors w).2 with
    | true =>
      rw [if_pos rfl]
      have hno : (migrateSelectors e replies c.leases.head? c.selectors w).2 ≠ false := by
        rw [hfail]
        exact Bool.false_ne_true.symm
      refine ⟨[], ?_, fun h => absurd h hno, fun h => absurd h hno⟩
      rw [migrateDirs_append, ← hmoves, if_pos hfail]
    | false =>
      obtain ⟨seen, hmoves', hseen', hsaw'⟩ := ih (migrateSelectors e replies c.leases.head? c.selectors w).1
      rw [if_neg Bool.false_ne_true]
      rw [hseen hfail] at hmoves' hsaw'
      refine ⟨seen, ?_, hseen', ?_⟩
      · rw [migrateDirs_append, ← hmoves, hfail, if_neg Bool.false_ne_true]
        exact hmoves'
      · intro hok
        rw [hsaw' hok, hsaw hfail, or_assoc, ne_eq, ne_eq, ne_eq, List.append_eq_nil_iff, not_and_or]

end

end Ikev2
