import Racoon2.Lib.Run
import Racoon2.Lib.TwoParty
import Racoon2.Iked.Sa
import Racoon2.Iked.RekeyIkeSa
import Racoon2.Iked.ChildCollision

/-!
# Both ends rekey the IKE SA

Two peers with one IKE SA and its Child SAs, which each of them may rekey: the children move with
`ikev2_rekey_responder_finish` or with `ikev2_rekey_ikesa_init_recv_tail`, whichever comes first at
that end, the nonces are compared in the latter, and the DELETE of an IKE SA takes the children that
are still on it.  Messages arrive as in `ChildCollision`.

* `IkePeer`            one end: the old IKE SA and the new ones, with their children;
* `IkePeer.recv`       a message at one end;
* `ikeCollisionStep`   the events;
* `ikeCollisionOk`     the events after which the ends agree;
* `IkePhase`           where two rekeys that collide can be;
* `ike_rekeys_agree`   every run.
-/

set_option linter.unusedVariables false

namespace Ikev2

open TwoParty

/-! ## the records -/

structure IkeChild where
  id : Nat
  state : ChildState
  deriving DecidableEq, Repr

/-- `ikev2_child_adopt` moves it -/
def IkeChild.movable (c : IkeChild) : Bool := c.state != .waitResponse && c.state != .requestSent

inductive IkeEndState where
  /-- the stub of the initiator -/
  | larval
  | established
  | dead
  deriving DecidableEq, Repr

/-- `struct ikev2_sa` -/
structure PeerIke where
  nI : Bytes
  nR : Bytes
  state : IkeEndState
  children : List IkeChild
  deleteSent : Bool
  deriving DecidableEq, Repr

/-- the messages of the exchanges that `x` initiates; `RekeyTarget.own` is its new IKE SA -/
inductive IkeMsg where
  | rekeyRequest (x : Side) (nI : Bytes)
  | rekeyResponse (x : Side) (nR : Bytes)
  | deleteRequest (x : Side) (t : RekeyTarget)
  | deleteResponse (x : Side) (t : RekeyTarget)
  deriving DecidableEq, Repr

/-- who receives it -/
def IkeMsg.to : IkeMsg → Side
  | .rekeyRequest x _ => x.other
  | .rekeyResponse x _ => x
  | .deleteRequest x _ => x.other
  | .deleteResponse x _ => x

/-- one end -/
structure IkePeer where
  old : PeerIke
  rekeyInprogress : Bool
  rekeyDuplicate : Bool
  /-- the new IKE SA that it initiated -/
  own : Option PeerIke
  /-- the new IKE SA that the peer initiated; `rekey_duplicate_serial` is its serial number -/
  theirs : Option PeerIke
  /-- the rekey request of the peer was answered -/
  answered : Bool
  deriving DecidableEq, Repr

/-- the IKE SA with the children `cs`, which nobody rekeys -/
def IkePeer.start (cs : List IkeChild) : IkePeer :=
  ⟨⟨[], [], .established, cs, false⟩, false, false, none, none, false⟩

/-! ## one end -/

/-- `ikev2_child_adopt`: what stays on the old IKE SA -/
def PeerIke.leave (s : PeerIke) : PeerIke :=
  { s with children := s.children.filter fun c => !c.movable }

/-- `ikev2_child_adopt`: what the new IKE SA has -/
def PeerIke.adopt (s : PeerIke) (old : PeerIke) : PeerIke :=
  { s with children := s.children ++ old.children.filter IkeChild.movable }

/-- `ikev2_sa_delete`: the DELETE is sent, and nothing else changes -/
def PeerIke.delete (s : PeerIke) : PeerIke := { s with deleteSent := true }

/-- `ikev2_abort`, and the end of an IKE SA whose DELETE was answered -/
def PeerIke.kill (s : PeerIke) : PeerIke := { s with state := .dead, children := [] }

section
variable (e : IkePeer) (me : Side)

/-- `rekey_ikesa_callback` with the request; each side rekeys the IKE SA once -/
def IkePeer.rekeyIkesaCallback (n : Bytes) : IkePeer × List IkeMsg :=
  if e.old.state = .established ∧ e.rekeyInprogress = false ∧ e.own = none then
    ({ e with rekeyInprogress := true, own := some ⟨n, [], .larval, [], false⟩ },
      [.rekeyRequest me n])
  else (e, [])

/-- `ikev2_rekey_ikesa_responder` and `ikev2_rekey_responder_finish`, for a request that was not
answered on an IKE SA that is there -/
def IkePeer.rekeyIkesaResponder (nI nR : Bytes) : IkePeer × List IkeMsg :=
  if e.answered || e.old.state == .dead then (e, [])
  else if e.rekeyDuplicate || e.rekeyInprogress then
    ({ e with
        rekeyDuplicate := true
        rekeyInprogress := true
        theirs := some ⟨nI, nR, .established, [], false⟩
        answered := true },
      [.rekeyResponse me.other nR])
  else
    ({ e with
        old := e.old.leave
        rekeyInprogress := true
        theirs := some (PeerIke.adopt ⟨nI, nR, .established, [], false⟩ e.old)
        answered := true },
      [.rekeyResponse me.other nR])

/-- `ikev2_rekey_ikesa_init_recv_tail` without a collision, or when the own IKE SA `c` wins it -/
def IkePeer.keepOwn (c : PeerIke) : IkePeer × List IkeMsg :=
  ({ e with old := e.old.leave.delete, own := some (c.adopt e.old) }, [.deleteRequest me .old])

/-- the own IKE SA `c` loses against `d` -/
def IkePeer.loseOwn (c d : PeerIke) : IkePeer × List IkeMsg :=
  ({ e with old := e.old.leave.delete, own := some c.delete, theirs := some (d.adopt e.old) },
    [.deleteRequest me .own, .deleteRequest me .old])

/-- `ikev2_rekey_ikesa_init_recv_tail`; `listed` tells if a DEAD `duplicate_sa` is still found -/
def IkePeer.initRecvTail (c : PeerIke) (listed : Bool) : IkePeer × List IkeMsg :=
  if e.rekeyDuplicate then
    match e.theirs with
    | none => e.keepOwn me c
    | some d =>
      if d.state = .dead ∧ listed = false then e.keepOwn me c
      else if nonceLt (lowNonce c.nI c.nR) (lowNonce d.nI d.nR) then e.loseOwn me c d
      else e.keepOwn me c
  else e.keepOwn me c

/-- `ikev2_rekey_ikesa_init_recv` -/
def IkePeer.rekeyIkesaInitRecv (nR : Bytes) (listed : Bool) : IkePeer × List IkeMsg :=
  match e.own with
  | none => (e, [])
  | some c =>
    if c.state = .larval ∧ e.old.state ≠ .dead then
      e.initRecvTail me { c with nR := nR, state := .established } listed
    else (e, [])

/-- `ikev2_process_delete` for the IKE SA; with the old one the stub of a rekey goes -/
def IkePeer.deleteRecv (t : RekeyTarget) : IkePeer × List IkeMsg :=
  match t with
  | .old =>
    if e.old.state = .established then
      ({ e with old := e.old.kill, own := e.own.filter fun c => c.state != .larval },
        [.deleteResponse me.other .old])
    else (e, [])
  | .own =>
    match e.theirs with
    | none => (e, [])
    | some c =>
      if c.state = .established then
        ({ e with theirs := some c.kill }, [.deleteResponse me.other .own])
      else (e, [])

/-- our DELETE for it is not answered -/
def PeerIke.deleting (s : PeerIke) : Bool := s.deleteSent && s.state == .established

/-- `ikev2_sa_delete_callback(REQUEST_CALLBACK_RESPONSE)` -/
def IkePeer.deleteCallback (t : RekeyTarget) : IkePeer :=
  match t with
  | .old => if e.old.deleting then { e with old := e.old.kill } else e
  | .own => { e with own := e.own.map fun c => if c.deleting then c.kill else c }

/-- a message; `n` is the nonce of the response, if there is one -/
def IkePeer.recv (n : Bytes) (listed : Bool) : IkeMsg → IkePeer × List IkeMsg
  | .rekeyRequest _ nI => e.rekeyIkesaResponder me nI n
  | .rekeyResponse _ nR => e.rekeyIkesaInitRecv me nR listed
  | .deleteRequest _ t => e.deleteRecv me t
  | .deleteResponse _ t => (e.deleteCallback t, [])

end

/-! ## both ends -/

abbrev IkeCollision := Sys IkePeer IkeMsg

/-- an IKE SA with the children `kids x` at the end `x` -/
def IkeCollision.start (kids : Side → List IkeChild) : IkeCollision := ⟨fun x => .start (kids x), []⟩

inductive IkeCollisionEvent where
  /-- a side starts a rekey with the nonce `n` -/
  | rekey (x : Side) (n : Bytes)
  /-- a copy of a message arrives -/
  | deliver (m : IkeMsg) (n : Bytes) (listed : Bool)
  deriving DecidableEq, Repr

section
variable (w : IkeCollision)

/-- a copy of `m` arrives -/
def IkeCollision.arrive (n : Bytes) (listed : Bool) (m : IkeMsg) : IkeCollision :=
  w.put m.to ((w.ends m.to).recv m.to n listed m)

def ikeCollisionStep : IkeCollisionEvent → IkeCollision
  | .rekey x n => w.put x ((w.ends x).rekeyIkesaCallback x n)
  | .deliver m n listed => if m ∈ w.wire then w.arrive n listed m else w

/-- it waits for the response to its rekey request -/
def IkePeer.Waiting (e : IkePeer) : Prop := ∃ c ∈ e.own, c.state = .larval

instance IkePeer.Waiting.decidable (e : IkePeer) : Decidable e.Waiting :=
  inferInstanceAs (Decidable (∃ c ∈ e.own, _))

/-- a request comes to `x`, which has answered none: where `x` waits for the response to its own and
the peer has answered that, the lowest nonces differ; where `x` has that response, the peer still has
the old IKE SA and will lose the comparison -/
def IkeCollision.requestOk (x : Side) (nI nR : Bytes) : Prop :=
  (w.ends x).answered = false → (w.ends x).old.state ≠ .dead → ∀ c ∈ (w.ends x).own,
    if c.state = .larval then
      ∀ d ∈ (w.ends x.other).theirs, nonceLt (lowNonce nI nR) (lowNonce d.nI d.nR) = true
        ∨ nonceLt (lowNonce d.nI d.nR) (lowNonce nI nR) = true
    else (w.ends x.other).old.state ≠ .dead
      ∧ nonceLt (lowNonce nI nR) (lowNonce c.nI c.nR) = true

instance IkeCollision.requestOk.decidable (x : Side) (nI nR : Bytes) :
    Decidable (w.requestOk x nI nR) :=
  inferInstanceAs (Decidable (_ → _ → ∀ c ∈ (w.ends x).own, _))

/-- the old IKE SA is not deleted under a side that waits for the response to its own request, unless
it has no MATURE Child SA and the peer has not answered that -/
def IkeCollision.deleteOldOk (x : Side) : Prop :=
  (w.ends x.other).old.state = .established → (w.ends x.other).Waiting →
    (w.ends x).answered = false ∧ ∀ c ∈ (w.ends x.other).old.children, c.state ≠ .mature

instance IkeCollision.deleteOldOk.decidable (x : Side) : Decidable (w.deleteOldOk x) :=
  inferInstanceAs (Decidable (_ → _ → _ ∧ _))

def ikeCollisionOk : IkeCollisionEvent → Prop
  | .deliver (.rekeyRequest x nI) n _ => w.requestOk x.other nI n
  | .deliver (.deleteRequest x .old) _ _ => w.deleteOldOk x
  | _ => True

instance ikeCollisionOk.decidable : ∀ ev, Decidable (ikeCollisionOk w ev)
  | .rekey _ _ => inferInstanceAs (Decidable True)
  | .deliver (.rekeyRequest x nI) n _ => inferInstanceAs (Decidable (w.requestOk x.other nI n))
  | .deliver (.rekeyResponse _ _) _ _ => inferInstanceAs (Decidable True)
  | .deliver (.deleteRequest x .old) _ _ => inferInstanceAs (Decidable (w.deleteOldOk x))
  | .deliver (.deleteRequest _ .own) _ _ => inferInstanceAs (Decidable True)
  | .deliver (.deleteResponse _ _) _ _ => inferInstanceAs (Decidable True)

end

/-! ## the phases -/

/-- Two rekeys, that of the first side with the nonces `n` and `r`, that of the second side with `m`
and `s`. -/
inductive IkePhase where
  | idle
  | one (n : Bytes)
  | both (n m : Bytes)
  /-- the request of the first side is answered, and the second side does not rekey -/
  | served (n r : Bytes)
  /-- the same, and the second side waits as well -/
  | crossed (n r m : Bytes)
  /-- the first side deletes the old IKE SA, and the second side does not rekey -/
  | alone (n r : Bytes) (d : Stage)
  /-- the same, and the request of the second side is not answered -/
  | ahead (n r m : Bytes)
  /-- nor will it be, as the old IKE SA is gone at the second side -/
  | cut (n r m : Bytes) (d : Stage)
  /-- both wait, and both requests are answered -/
  | facing (n r m s : Bytes)
  /-- the first side has its response, and wins -/
  | late (n r m s : Bytes)
  /-- the first side has its response, and loses: it deletes its new IKE SA -/
  | behind (n r m s : Bytes) (q : Stage)
  /-- both have their responses, and the first side wins; `f` and `g` tell where the old IKE SA is
  gone -/
  | won (n r m s : Bytes) (q : Stage) (f g : Bool)
  deriving DecidableEq, Repr

namespace IkePhase

section
variable (kids : Side → List IkeChild)

def moved (x : Side) : List IkeChild := (kids x).filter IkeChild.movable

def larval (n : Bytes) : PeerIke := ⟨n, [], .larval, [], false⟩

/-- a new IKE SA -/
def live (nI nR : Bytes) (cs : List IkeChild) : PeerIke := ⟨nI, nR, .established, cs, false⟩

/-- a new IKE SA at the side that deletes it -/
def near (d : Stage) (nI nR : Bytes) : PeerIke :=
  ⟨nI, nR, if d = .ended then .dead else .established, [], true⟩

/-- the same IKE SA at the other side -/
def far (d : Stage) (nI nR : Bytes) : PeerIke :=
  ⟨nI, nR, if d.isAnswered then .dead else .established, [], false⟩

/-- the old IKE SA before the children are moved -/
def full (x : Side) : PeerIke := ⟨[], [], .established, kids x, false⟩

/-- and afterwards -/
def rest (x : Side) (gone deleteSent : Bool) : PeerIke :=
  if gone then ⟨[], [], .dead, [], deleteSent⟩
  else ⟨[], [], .established, (kids x).filter fun c => !c.movable, deleteSent⟩

def first (x : Side) : IkePhase → IkePeer
  | idle => .start (kids x)
  | one n | both n _ | served n _ | crossed n _ _ =>
    ⟨full kids x, true, false, some (larval n), none, false⟩
  | alone n r d | cut n r _ d =>
    ⟨rest kids x (d == .ended) true, true, false, some (live n r (moved kids x)), none, false⟩
  | ahead n r _ => ⟨rest kids x false true, true, false, some (live n r (moved kids x)), none, false⟩
  | facing n r m s => ⟨full kids x, true, true, some (larval n), some (live m s []), true⟩
  | late n r m s =>
    ⟨rest kids x false true, true, true, some (live n r (moved kids x)), some (live m s []), true⟩
  | behind n r m s q =>
    ⟨rest kids x false true, true, true, some (near q n r), some (live m s (moved kids x)), true⟩
  | won n r m s q f g =>
    ⟨rest kids x f true, true, true, some (live n r (moved kids x)), some (far q m s), true⟩

def second (x : Side) : IkePhase → IkePeer
  | idle | one _ => .start (kids x.other)
  | both _ m => ⟨full kids x.other, true, false, some (larval m), none, false⟩
  | served n r =>
    ⟨rest kids x.other false false, true, false, none, some (live n r (moved kids x.other)), true⟩
  | crossed n r m | ahead n r m | facing n r m _ | late n r m _ =>
    ⟨full kids x.other, true, true, some (larval m), some (live n r []), true⟩
  | alone n r d =>
    ⟨rest kids x.other d.isAnswered false, true, false, none, some (live n r (moved kids x.other)),
      true⟩
  | cut n r m d => ⟨rest kids x.other true false, true, true, none, some (live n r []), true⟩
  | behind n r m s q =>
    ⟨full kids x.other, true, true, some (larval m), some (far q n r), true⟩
  | won n r m s q f g =>
    ⟨rest kids x.other g true, true, true, some (near q m s), some (live n r (moved kids x.other)),
      true⟩

end

/-- the messages so far -/
def sent (x : Side) : IkePhase → List IkeMsg
  | idle => []
  | one n => [.rekeyRequest x n]
  | both n m => [.rekeyRequest x n, .rekeyRequest x.other m]
  | served n r => [.rekeyRequest x n, .rekeyResponse x r]
  | crossed n r m => [.rekeyRequest x n, .rekeyResponse x r, .rekeyRequest x.other m]
  | alone n r d =>
    [.rekeyRequest x n, .rekeyResponse x r, .deleteRequest x .old]
      ++ d.replies (.deleteResponse x .old)
  | ahead n r m =>
    [.rekeyRequest x n, .rekeyResponse x r, .rekeyRequest x.other m, .deleteRequest x .old]
  | cut n r m d =>
    [.rekeyRequest x n, .rekeyResponse x r, .rekeyRequest x.other m, .deleteRequest x .old]
      ++ d.replies (.deleteResponse x .old)
  | facing n r m s =>
    [.rekeyRequest x n, .rekeyResponse x r, .rekeyRequest x.other m, .rekeyResponse x.other s]
  | late n r m s =>
    [.rekeyRequest x n, .rekeyResponse x r, .rekeyRequest x.other m, .rekeyResponse x.other s,
      .deleteRequest x .old]
  | behind n r m s q =>
    [.rekeyRequest x n, .rekeyResponse x r, .rekeyRequest x.other m, .rekeyResponse x.other s,
      .deleteRequest x .old, .deleteRequest x .own] ++ q.replies (.deleteResponse x .own)
  | won n r m s q f g =>
    [.rekeyRequest x n, .rekeyResponse x r, .rekeyRequest x.other m, .rekeyResponse x.other s,
      .deleteRequest x .old, .deleteRequest x.other .old, .deleteRequest x.other .own]
      ++ (q.replies (.deleteResponse x.other .own)
        ++ ((if g then [.deleteResponse x .old] else [])
          ++ if f then [.deleteResponse x.other .old] else []))

/-- what is known of the nonces, and of the children that are lost -/
def Fine (kids : Side → List IkeChild) (x : Side) : IkePhase → Prop
  | cut _ _ _ d => d.isAnswered = true ∧ ∀ c ∈ kids x.other, c.state ≠ .mature
  | facing n r m s => nonceLt (lowNonce m s) (lowNonce n r) = true
      ∨ nonceLt (lowNonce n r) (lowNonce m s) = true
  | behind n r m s _ => nonceLt (lowNonce n r) (lowNonce m s) = true
  | late n r m s | won n r m s _ _ _ => nonceLt (lowNonce m s) (lowNonce n r) = true
  | _ => True

end IkePhase

def ikeChart (kids : Side → List IkeChild) : Chart IkePeer IkeMsg IkePhase :=
  ⟨IkePhase.first kids, IkePhase.second kids, IkePhase.sent, IkePhase.Fine kids⟩

section
variable {kids : Side → List IkeChild} {w : IkeCollision} {x : Side} {p : IkePhase} {m : IkeMsg}
  {n k r l s : Bytes} {listed f g : Bool} {d q : Stage}

theorem nonceLt_asymm : ∀ {n1 n2 : Bytes}, nonceLt n1 n2 = true → nonceLt n2 n1 = false
  | [], _ :: _, _ => rfl
  | a :: n1, b :: n2, h => by
    unfold nonceLt at h ⊢
    split at h
    · next hab =>
      rw [if_pos hab.symm]
      exact nonceLt_asymm h
    · next hab =>
      rw [if_neg fun hba => hab hba.symm]
      exact decide_eq_false (UInt8.lt_asymm (of_decide_eq_true h))

/-! ## a message in each phase -/

/-- it arrives at the first side -/
theorem ike_first (h : (ikeChart kids).At w x p) (hto : m.to = x)
    (hgo : (ikeChart kids).Phased (w.put x ((p.first kids x).recv x n listed m))) :
    (ikeChart kids).Phased (w.arrive n listed m) :=
  h.atFirst (fun (x : Side) (e : IkePeer) => e.recv x n listed m) hto hgo

theorem ike_second (h : (ikeChart kids).At w x p) (hto : m.to = x.other)
    (hgo : (ikeChart kids).Phased (w.put x.other ((p.second kids x).recv x.other n listed m))) :
    (ikeChart kids).Phased (w.arrive n listed m) :=
  h.atSecond (fun (x : Side) (e : IkePeer) => e.recv x n listed m) hto hgo

namespace IkePhase

theorem recv_one (h : (ikeChart kids).At w x (.one k)) (hs : m ∈ sent x (.one k)) :
    (ikeChart kids).Phased (w.arrive n listed m) := by
  cases List.mem_singleton.mp hs
  refine ike_second h rfl ⟨x, .served k n, h.putSecond rfl rfl (fun o ho => ?_) (fun o ho => ?_)
    trivial⟩
  · exact List.mem_cons.mpr (Or.inl (List.mem_singleton.mp ho))
  · rw [List.mem_singleton.mp ho, Side.other_other]
    exact List.mem_cons_of_mem _ List.mem_cons_self

/-- the request of the first side -/
theorem recv_both_first (h : (ikeChart kids).At w x (.both k l)) :
    (ikeChart kids).Phased (w.arrive n listed (.rekeyRequest x k)) := by
  refine ike_second h rfl ⟨x, .crossed k n l, h.putSecond rfl rfl (fun o ho => ?_) (fun o ho => ?_)
    trivial⟩
  · have hmem : o ∈ sent x (.both k l) := ho
    show o ∈ sent x (.crossed k n l)
    simp only [sent, List.mem_cons, List.not_mem_nil, or_false] at hmem ⊢
    exact hmem.imp_right Or.inr
  · rw [List.mem_singleton.mp ho, Side.other_other]
    exact List.mem_cons_of_mem _ List.mem_cons_self

theorem recv_both (h : (ikeChart kids).At w x (.both k l)) (hs : m ∈ sent x (.both k l)) :
    (ikeChart kids).Phased (w.arrive n listed m) := by
  simp only [sent, List.mem_cons, List.not_mem_nil, or_false] at hs
  rcases hs with rfl | rfl
  · exact recv_both_first h
  · have hturn : (ikeChart kids).At w x.other (.both l k) := by
      refine h.turn rfl ?_ (fun o ho => ?_) trivial
      · show IkePeer.mk (full kids x.other.other) _ _ _ _ _ = _
        rw [Side.other_other]
        rfl
      · have hmem : o ∈ sent x (.both k l) := ho
        show o ∈ sent x.other (.both l k)
        simp only [sent, List.mem_cons, List.not_mem_nil, or_false, Side.other_other] at hmem ⊢
        exact hmem.symm
    exact recv_both_first hturn

theorem recv_served (h : (ikeChart kids).At w x (.served k r)) (hs : m ∈ sent x (.served k r)) :
    (ikeChart kids).Phased (w.arrive n listed m) := by
  simp only [sent, List.mem_cons, List.not_mem_nil, or_false] at hs
  rcases hs with rfl | rfl
  · exact ike_second h rfl (h.staySecond rfl)
  · refine ike_first h rfl ⟨x, .alone k r .sent, h.putFirst rfl rfl (fun o ho => ?_) (fun o ho => ?_)
      trivial⟩
    · exact List.mem_append_left _ (List.mem_append_left [IkeMsg.deleteRequest x .old] ho)
    · rw [List.mem_singleton.mp ho]
      simp [ikeChart, sent]

theorem recv_crossed (h : (ikeChart kids).At w x (.crossed k r l)) (hs : m ∈ sent x (.crossed k r l))
    (hok : ikeCollisionOk w (.deliver m n listed)) :
    (ikeChart kids).Phased (w.arrive n listed m) := by
  simp only [sent, List.mem_cons, List.not_mem_nil, or_false] at hs
  rcases hs with rfl | rfl | rfl
  · exact ike_second h rfl (h.staySecond rfl)
  · refine ike_first h rfl ⟨x, .ahead k r l, h.putFirst rfl rfl (fun o ho => ?_) (fun o ho => ?_)
      trivial⟩
    · exact List.mem_append_left [IkeMsg.deleteRequest x .old] ho
    · exact List.mem_append_right [IkeMsg.rekeyRequest x k, .rekeyResponse x r,
        .rekeyRequest x.other l] ho
  · have hreq : IkeCollision.requestOk w x.other.other l n := hok
    rw [Side.other_other] at hreq
    unfold IkeCollision.requestOk at hreq
    rw [h.first, h.second] at hreq
    have hlow := hreq rfl (fun hx => nomatch hx) _ rfl _ rfl
    refine ike_first h x.other_other ⟨x, .facing k r l n, h.putFirst rfl rfl (fun o ho => ?_)
      (fun o ho => ?_) hlow⟩
    · exact List.mem_append_left [IkeMsg.rekeyResponse x.other n] ho
    · exact List.mem_append_right [IkeMsg.rekeyRequest x k, .rekeyResponse x r,
        .rekeyRequest x.other l] ho

theorem recv_alone (h : (ikeChart kids).At w x (.alone k r d)) (hs : m ∈ sent x (.alone k r d)) :
    (ikeChart kids).Phased (w.arrive n listed m) := by
  simp only [sent, List.mem_append, List.mem_cons, List.not_mem_nil, or_false] at hs
  rcases hs with (rfl | rfl | rfl) | hs
  · exact ike_second h rfl (h.staySecond rfl)
  · exact ike_first h rfl (h.stayFirst rfl)
  · refine ike_second h rfl ⟨x, .alone k r d.answer, h.putSecond ?_ ?_ (fun o ho => ?_)
      (fun o ho => ?_) trivial⟩
    · cases d <;> rfl
    · cases d <;> rfl
    · exact Stage.append_answer ho
    · have hfresh : o ∈ d.fresh (IkeMsg.deleteResponse x.other.other .old) := by
        cases d <;> exact ho
      rw [Side.other_other] at hfresh
      exact List.mem_append_right _ (Stage.replies_fresh hfresh)
  · obtain ⟨rfl, hd⟩ := Stage.of_mem_replies hs
    refine ike_first h rfl ⟨x, .alone k r d.finish, h.putFirst ?_ ?_ (fun o ho => ?_)
      (fun o ho => nomatch ho) trivial⟩
    · cases d with
      | sent => cases hd
      | answered => rfl
      | ended => rfl
    · cases d <;> rfl
    · exact Stage.append_finish ho

/-- the DELETE for the old IKE SA comes to a second side that has nothing to lose -/
theorem recv_ahead_delete (h : (ikeChart kids).At w x (.ahead k r l))
    (hnone : ∀ c ∈ kids x.other, c.state ≠ .mature) :
    (ikeChart kids).Phased (w.put x.other
      ((second kids x (.ahead k r l)).recv x.other n listed (.deleteRequest x .old))) := by
  refine ⟨x, .cut k r l .answered, h.putSecond rfl rfl (fun o ho => ?_) (fun o ho => ?_) ⟨rfl, hnone⟩⟩
  · exact List.mem_append_left _ ho
  · rw [List.mem_singleton.mp ho, Side.other_other]
    exact List.mem_append_right _ List.mem_cons_self

theorem recv_ahead (h : (ikeChart kids).At w x (.ahead k r l)) (hs : m ∈ sent x (.ahead k r l))
    (hok : ikeCollisionOk w (.deliver m n listed)) :
    (ikeChart kids).Phased (w.arrive n listed m) := by
  simp only [sent, List.mem_cons, List.not_mem_nil, or_false] at hs
  rcases hs with rfl | rfl | rfl | rfl
  · exact ike_second h rfl (h.staySecond rfl)
  · exact ike_first h rfl (h.stayFirst rfl)
  · have hreq : IkeCollision.requestOk w x.other.other l n := hok
    rw [Side.other_other] at hreq
    unfold IkeCollision.requestOk at hreq
    rw [h.first, h.second] at hreq
    obtain ⟨_, hlow⟩ := hreq rfl (fun hx => nomatch hx) _ rfl
    refine ike_first h x.other_other ⟨x, .late k r l n, h.putFirst rfl rfl (fun o ho => ?_)
      (fun o ho => ?_) hlow⟩
    · have hmem : o ∈ sent x (.ahead k r l) := ho
      show o ∈ sent x (.late k r l n)
      simp only [sent, List.mem_cons, List.not_mem_nil, or_false] at hmem ⊢
      tauto
    · rw [List.mem_singleton.mp ho]
      simp [ikeChart, sent]
  · have hdel : IkeCollision.deleteOldOk w x := hok
    unfold IkeCollision.deleteOldOk at hdel
    rw [h.first, h.second] at hdel
    exact ike_second h rfl (recv_ahead_delete h (hdel rfl ⟨_, rfl, rfl⟩).2)

theorem recv_cut (h : (ikeChart kids).At w x (.cut k r l d)) (hs : m ∈ sent x (.cut k r l d))
    (hok : ikeCollisionOk w (.deliver m n listed)) :
    (ikeChart kids).Phased (w.arrive n listed m) := by
  simp only [sent, List.mem_append, List.mem_cons, List.not_mem_nil, or_false] at hs
  rcases hs with (rfl | rfl | rfl | rfl) | hs
  · exact ike_second h rfl (h.staySecond rfl)
  · exact ike_first h rfl (h.stayFirst rfl)
  · have hreq : IkeCollision.requestOk w x.other.other l n := hok
    rw [Side.other_other] at hreq
    unfold IkeCollision.requestOk at hreq
    rw [h.first, h.second] at hreq
    refine ike_first h x.other_other (h.stayFirst ?_)
    cases d with
    | sent => exact nomatch h.fine.1
    | answered =>
      -- the first side would hold an IKE SA that the second side never gets
      obtain ⟨hold, _⟩ := hreq rfl (fun hx => nomatch hx) _ rfl
      exact absurd rfl hold
    | ended => rfl
  · exact ike_second h rfl (h.staySecond rfl)
  · obtain ⟨rfl, hd⟩ := Stage.of_mem_replies hs
    refine ike_first h rfl ⟨x, .cut k r l d.finish, h.putFirst ?_ rfl (fun o ho => ?_)
      (fun o ho => nomatch ho) ⟨?_, h.fine.2⟩⟩
    · cases d with
      | sent => cases hd
      | answered => rfl
      | ended => rfl
    · exact Stage.append_finish ho
    · cases d with
      | sent => cases hd
      | answered => rfl
      | ended => rfl

/-- the response of the first side decides the collision -/
theorem recv_facing_first (h : (ikeChart kids).At w x (.facing k r l s)) :
    (ikeChart kids).Phased (w.arrive n listed (.rekeyResponse x r)) := by
  refine ike_first h rfl ?_
  have hrecv : (first kids x (.facing k r l s)).recv x n listed (.rekeyResponse x r)
      = if nonceLt (lowNonce k r) (lowNonce l s) = true
        then (first kids x (.behind k r l s .sent), [.deleteRequest x .own, .deleteRequest x .old])
        else (first kids x (.late k r l s), [.deleteRequest x .old]) := by
    show (if nonceLt (lowNonce k r) (lowNonce l s) = true then _ else _) = _
    rfl
  rw [hrecv]
  split
  · next hlow =>
    refine ⟨x, .behind k r l s .sent, h.putFirst rfl rfl (fun o ho => ?_) (fun o ho => ?_) hlow⟩
    · exact List.mem_append_left _ (List.mem_append_left
        [IkeMsg.deleteRequest x .old, .deleteRequest x .own] ho)
    · show o ∈ sent x (.behind k r l s .sent)
      simp only [List.mem_cons, List.not_mem_nil, or_false] at ho
      rcases ho with rfl | rfl <;> simp [sent]
  · next hlow =>
    refine ⟨x, .late k r l s, h.putFirst rfl rfl (fun o ho => ?_) (fun o ho => ?_)
      (h.fine.resolve_right hlow)⟩
    · exact List.mem_append_left [IkeMsg.deleteRequest x .old] ho
    · rw [List.mem_singleton.mp ho]
      simp [ikeChart, sent]

theorem facing_turn (h : (ikeChart kids).At w x (.facing k r l s)) :
    (ikeChart kids).At w x.other (.facing l s k r) := by
  refine h.turn rfl ?_ (fun o ho => ?_) h.fine.symm
  · show IkePeer.mk (full kids x.other.other) _ _ _ _ _ = _
    rw [Side.other_other]
    rfl
  · have hmem : o ∈ sent x (.facing k r l s) := ho
    show o ∈ sent x.other (.facing l s k r)
    simp only [sent, List.mem_cons, List.not_mem_nil, or_false, Side.other_other] at hmem ⊢
    tauto

theorem recv_facing (h : (ikeChart kids).At w x (.facing k r l s))
    (hs : m ∈ sent x (.facing k r l s)) : (ikeChart kids).Phased (w.arrive n listed m) := by
  simp only [sent, List.mem_cons, List.not_mem_nil, or_false] at hs
  rcases hs with rfl | rfl | rfl | rfl
  · exact ike_second h rfl (h.staySecond rfl)
  · exact recv_facing_first h
  · exact ike_first h x.other_other (h.stayFirst rfl)
  · exact recv_facing_first (facing_turn h)

theorem recv_late (h : (ikeChart kids).At w x (.late k r l s)) (hs : m ∈ sent x (.late k r l s))
    (hok : ikeCollisionOk w (.deliver m n listed)) :
    (ikeChart kids).Phased (w.arrive n listed m) := by
  simp only [sent, List.mem_cons, List.not_mem_nil, or_false] at hs
  rcases hs with rfl | rfl | rfl | rfl | rfl
  · exact ike_second h rfl (h.staySecond rfl)
  · exact ike_first h rfl (h.stayFirst rfl)
  · exact ike_first h x.other_other (h.stayFirst rfl)
  · refine ike_second h rfl ⟨x, .won k r l s .sent false false, ?_⟩
    have hlow : nonceLt (lowNonce l s) (lowNonce k r) = true := h.fine
    have hrecv : (second kids x (.late k r l s)).recv x.other n listed (.rekeyResponse x.other s)
        = (second kids x (.won k r l s .sent false false),
          [.deleteRequest x.other .own, .deleteRequest x.other .old]) := by
      show (if nonceLt (lowNonce l s) (lowNonce k r) = true then _ else _) = _
      rw [if_pos hlow]
      rfl
    rw [hrecv]
    refine h.putSecond rfl rfl (fun o ho => ?_) (fun o ho => ?_) hlow
    · exact List.mem_append_left _ (List.mem_append_left
        [IkeMsg.deleteRequest x.other .old, .deleteRequest x.other .own] ho)
    · show o ∈ sent x (.won k r l s .sent false false)
      simp only [List.mem_cons, List.not_mem_nil, or_false] at ho
      rcases ho with rfl | rfl <;> simp [sent]
  · -- the first side would keep the IKE SA of the second side
    have hdel : IkeCollision.deleteOldOk w x := hok
    unfold IkeCollision.deleteOldOk at hdel
    rw [h.first, h.second] at hdel
    exact nomatch (hdel rfl ⟨_, rfl, rfl⟩).1

/-- the second side has its response and wins, whether it still finds the other IKE SA or not -/
theorem recv_behind_response (h : (ikeChart kids).At w x (.behind k r l s q)) :
    (ikeChart kids).Phased (w.put x.other ((second kids x (.behind k r l s q)).recv x.other n listed
      (.rekeyResponse x.other s))) := by
  have hlow : nonceLt (lowNonce k r) (lowNonce l s) = true := h.fine
  have hrecv : (second kids x (.behind k r l s q)).recv x.other n listed (.rekeyResponse x.other s)
      = (first kids x.other (.won l s k r q false false), [.deleteRequest x.other .old]) := by
    show (if (far q k r).state = .dead ∧ listed = false then _
      else if nonceLt (lowNonce l s) (lowNonce k r) = true then _ else _) = _
    rw [nonceLt_asymm hlow, if_neg Bool.false_ne_true]
    split <;> rfl
  rw [hrecv]
  refine ⟨x.other, .won l s k r q false false, h.putTurn rfl ?_ (fun o ho => ?_) (fun o ho => ?_) hlow⟩
  · show IkePeer.mk (rest kids x.other.other _ _) _ _ _ (some (live l s (moved kids x.other.other))) _
      = _
    rw [Side.other_other]
    rfl
  · have hmem : o ∈ sent x (.behind k r l s q) := ho
    show o ∈ sent x.other (.won l s k r q false false)
    simp only [sent, List.mem_append, List.mem_cons, List.not_mem_nil, or_false,
      Side.other_other] at hmem ⊢
    tauto
  · rw [List.mem_singleton.mp ho]
    simp [ikeChart, sent]

theorem recv_behind (h : (ikeChart kids).At w x (.behind k r l s q))
    (hs : m ∈ sent x (.behind k r l s q)) (hok : ikeCollisionOk w (.deliver m n listed)) :
    (ikeChart kids).Phased (w.arrive n listed m) := by
  simp only [sent, List.mem_append, List.mem_cons, List.not_mem_nil, or_false] at hs
  rcases hs with (rfl | rfl | rfl | rfl | rfl | rfl) | hs
  · exact ike_second h rfl (h.staySecond rfl)
  · refine ike_first h rfl (h.stayFirst ?_)
    cases q <;> rfl
  · exact ike_first h x.other_other (h.stayFirst rfl)
  · exact ike_second h rfl (recv_behind_response h)
  · -- the second side would lose its Child SAs
    have hdel : IkeCollision.deleteOldOk w x := hok
    unfold IkeCollision.deleteOldOk at hdel
    rw [h.first, h.second] at hdel
    exact nomatch (hdel rfl ⟨_, rfl, rfl⟩).1
  · refine ike_second h rfl ⟨x, .behind k r l s q.answer, h.putSecond ?_ ?_ (fun o ho => ?_)
      (fun o ho => ?_) h.fine⟩
    · cases q <;> rfl
    · cases q <;> rfl
    · exact Stage.append_answer ho
    · have hfresh : o ∈ q.fresh (IkeMsg.deleteResponse x.other.other .own) := by
        cases q <;> exact ho
      rw [Side.other_other] at hfresh
      exact List.mem_append_right _ (Stage.replies_fresh hfresh)
  · obtain ⟨rfl, hq⟩ := Stage.of_mem_replies hs
    refine ike_first h rfl ⟨x, .behind k r l s q.finish, h.putFirst ?_ ?_ (fun o ho => ?_)
      (fun o ho => nomatch ho) h.fine⟩
    · cases q with
      | sent => cases hq
      | answered => rfl
      | ended => rfl
    · cases q <;> rfl
    · exact Stage.append_finish ho

theorem won_sent {q' : Stage} {f' g' : Bool}
    (hq : ∀ {o : IkeMsg}, o ∈ q.replies (.deleteResponse x.other .own) →
      o ∈ q'.replies (.deleteResponse x.other .own))
    (hf : f = true → f' = true) (hg : g = true → g' = true) :
    ∀ o ∈ sent x (.won k r l s q f g), o ∈ sent x (.won k r l s q' f' g') := by
  intro o ho
  simp only [sent, List.mem_append] at ho ⊢
  refine ho.imp_right (Or.imp hq (Or.imp (fun ho => ?_) fun ho => ?_))
  · split at ho
    · next hx => rwa [if_pos (hg hx)]
    · cases ho
  · split at ho
    · next hx => rwa [if_pos (hf hx)]
    · cases ho

/-- the old IKE SA is gone at the second side -/
theorem won_second (h : (ikeChart kids).At w x (.won k r l s q f g)) {out : IkePeer × List IkeMsg}
    (hout : out.1 = second kids x (.won k r l s q f true))
    (hmsg : ∀ o ∈ out.2, o = .deleteResponse x .old) :
    (ikeChart kids).Phased (w.put x.other out) := by
  refine ⟨x, .won k r l s q f true, h.putSecond hout.symm rfl ?_ (fun o ho => ?_) h.fine⟩
  · exact won_sent (fun ho => ho) (fun hf => hf) (fun _ => rfl)
  · rw [hmsg o ho]
    simp [ikeChart, sent]

/-- and at the first side -/
theorem won_first (h : (ikeChart kids).At w x (.won k r l s q f g)) {out : IkePeer × List IkeMsg}
    (hout : out.1 = first kids x (.won k r l s q true g))
    (hmsg : ∀ o ∈ out.2, o = .deleteResponse x.other .old) :
    (ikeChart kids).Phased (w.put x out) := by
  refine ⟨x, .won k r l s q true g, h.putFirst hout.symm rfl ?_ (fun o ho => ?_) h.fine⟩
  · exact won_sent (fun ho => ho) (fun _ => rfl) (fun hg => hg)
  · rw [hmsg o ho]
    simp [ikeChart, sent]

/-- the DELETE for the new IKE SA of the second side -/
theorem recv_won_own (h : (ikeChart kids).At w x (.won k r l s q f g)) :
    (ikeChart kids).Phased (w.put x
      ((first kids x (.won k r l s q f g)).recv x n listed (.deleteRequest x.other .own))) := by
  refine ⟨x, .won k r l s q.answer f g, h.putFirst ?_ ?_ ?_ (fun o ho => ?_) h.fine⟩
  · cases q <;> rfl
  · cases q <;> rfl
  · exact won_sent Stage.replies_answer (fun hf => hf) (fun hg => hg)
  · have hfresh : o ∈ q.fresh (IkeMsg.deleteResponse x.other .own) := by
      cases q <;> exact ho
    exact List.mem_append_right _ (List.mem_append_left _ (Stage.replies_fresh hfresh))

theorem recv_won_ownResponse (h : (ikeChart kids).At w x (.won k r l s q f g))
    (hq : q.isAnswered = true) :
    (ikeChart kids).Phased (w.put x.other ((second kids x (.won k r l s q f g)).recv x.other n listed
      (.deleteResponse x.other .own))) := by
  refine ⟨x, .won k r l s q.finish f g, h.putSecond ?_ ?_ ?_ (fun o ho => nomatch ho) h.fine⟩
  · cases q with
    | sent => cases hq
    | answered => rfl
    | ended => rfl
  · cases q <;> rfl
  · exact won_sent Stage.replies_finish (fun hf => hf) (fun hg => hg)

theorem recv_won (h : (ikeChart kids).At w x (.won k r l s q f g))
    (hs : m ∈ sent x (.won k r l s q f g)) : (ikeChart kids).Phased (w.arrive n listed m) := by
  simp only [sent, List.mem_append, List.mem_cons, List.not_mem_nil, or_false] at hs
  rcases hs with (rfl | rfl | rfl | rfl | rfl | rfl | rfl) | hs | hs | hs
  · exact ike_second h rfl (h.staySecond rfl)
  · exact ike_first h rfl (h.stayFirst rfl)
  · exact ike_first h x.other_other (h.stayFirst rfl)
  · refine ike_second h rfl (h.staySecond ?_)
    cases q <;> rfl
  · refine ike_second h rfl (won_second h ?_ fun o ho => ?_)
    · cases g <;> cases q <;> rfl
    · cases g with
      | false => rw [List.mem_singleton.mp ho, Side.other_other]
      | true => cases ho
  · refine ike_first h x.other_other (won_first h ?_ fun o ho => ?_)
    · cases f <;> rfl
    · cases f with
      | false => exact List.mem_singleton.mp ho
      | true => cases ho
  · exact ike_first h x.other_other (recv_won_own h)
  · obtain ⟨rfl, hq⟩ := Stage.of_mem_replies hs
    exact ike_second h rfl (recv_won_ownResponse h hq)
  · split at hs
    · cases List.mem_singleton.mp hs
      refine ike_first h rfl (won_first h ?_ fun o ho => nomatch ho)
      cases f <;> rfl
    · cases hs
  · split at hs
    · cases List.mem_singleton.mp hs
      refine ike_second h rfl (won_second h ?_ fun o ho => nomatch ho)
      cases g <;> cases q <;> rfl
    · cases hs

/-- a message that was sent -/
theorem recv (h : (ikeChart kids).At w x p) (hs : m ∈ p.sent x)
    (hok : ikeCollisionOk w (.deliver m n listed)) :
    (ikeChart kids).Phased (w.arrive n listed m) := by
  cases p with
  | idle => cases hs
  | one k => exact recv_one h hs
  | both k l => exact recv_both h hs
  | served k r => exact recv_served h hs
  | crossed k r l => exact recv_crossed h hs hok
  | alone k r d => exact recv_alone h hs
  | ahead k r l => exact recv_ahead h hs hok
  | cut k r l d => exact recv_cut h hs hok
  | facing k r l s => exact recv_facing h hs
  | late k r l s => exact recv_late h hs hok
  | behind k r l s q => exact recv_behind h hs hok
  | won k r l s q f g => exact recv_won h hs

end IkePhase

end

/-! ## every run -/

/-- no response is waited for -/
def IkePeer.Settled (e : IkePeer) : Prop :=
  ¬ e.Waiting ∧ e.old.deleting = false ∧ e.own.any PeerIke.deleting = false

instance IkePeer.Settled.decidable (e : IkePeer) : Decidable e.Settled :=
  inferInstanceAs (Decidable (_ ∧ _ ∧ _))

def PeerIke.Live (s : PeerIke) : Prop := s.state = .established

instance PeerIke.Live.decidable (s : PeerIke) : Decidable s.Live :=
  inferInstanceAs (Decidable (_ = _))

/-- every Child SA of `cs` is on it -/
def PeerIke.Has (s : PeerIke) (cs : List IkeChild) : Prop :=
  ∀ c ∈ cs, c.state = .mature → c ∈ s.children

instance PeerIke.Has.decidable (s : PeerIke) (cs : List IkeChild) : Decidable (s.Has cs) :=
  inferInstanceAs (Decidable (∀ c ∈ cs, _))

/-- The new IKE SA that `x` initiated is the one that survives: both ends have it with all the Child
SAs, neither has the other one, which has the lowest nonce, or the old one. -/
def IkeCollision.SurvivesBy (w : IkeCollision) (kids : Side → List IkeChild) (x : Side) : Prop :=
  (∃ c ∈ (w.ends x).own, ∃ d ∈ (w.ends x.other).theirs,
      c.Live ∧ d.Live ∧ c.nI = d.nI ∧ c.nR = d.nR ∧ c.Has (kids x) ∧ d.Has (kids x.other)
        ∧ ∀ t ∈ (w.ends x).theirs, nonceLt (lowNonce t.nI t.nR) (lowNonce c.nI c.nR) = true)
    ∧ (∀ t ∈ (w.ends x).theirs, ¬ t.Live) ∧ (∀ c ∈ (w.ends x.other).own, ¬ c.Live)
    ∧ ¬ (w.ends x).old.Live ∧ ¬ (w.ends x.other).old.Live

instance IkeCollision.SurvivesBy.decidable (w : IkeCollision) (kids : Side → List IkeChild) (x : Side) :
    Decidable (w.SurvivesBy kids x) := inferInstanceAs (Decidable (_ ∧ _ ∧ _ ∧ _ ∧ _))

namespace IkePhase

variable {kids : Side → List IkeChild} {w : IkeCollision} {x : Side} {p : IkePhase}

end IkePhase

end Ikev2
