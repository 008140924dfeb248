import Racoon2.Lib.Run
import Racoon2.Lib.TwoParty
import Racoon2.Iked.Sa
import Racoon2.Iked.RekeyIkeSa

/-!
# Both ends rekey one Child SA

Two peers with one Child SA, which each of them may rekey: the CREATE_CHILD_SA exchange of either
side, the comparison of the nonces in `ikev2_initiator_rekey_finalize`, and the DELETE it starts.  A
message that was sent may arrive at any later time, any number of times, or never; a request that
was answered gets its answer again, a response that is not waited for is dropped.

* `ChildPeer`            one end: the old Child SA and the new ones;
* `ChildPeer.recv`       a message at one end;
* `collisionStep`        the events;
* `collisionOk`          the events after which the ends agree;
* `CollisionPhase`       where two rekeys that collide can be;
* `child_rekeys_agree`   every run.
-/

set_option linter.unusedVariables false

namespace Ikev2

open TwoParty

/-! ## the records -/

/-- `struct ikev2_child_sa` -/
structure PeerChild where
  nI : Bytes
  nR : Bytes
  state : ChildState
  deleteSent : Bool
  /-- a DELETE of the peer for it was answered -/
  deleteAnswered : Bool
  deriving DecidableEq, Repr

/-- what the DELETE of a rekey names -/
inductive RekeyTarget where
  | old
  /-- the new Child SA of the side that deletes -/
  | own
  deriving DecidableEq, Repr

inductive RekeyAnswer where
  | accepted (nR : Bytes)
  /-- CHILD_SA_NOT_FOUND -/
  | notFound
  deriving DecidableEq, Repr

/-- the messages of the exchanges that `x` initiates -/
inductive CollisionMsg where
  | rekeyRequest (x : Side) (nI : Bytes)
  | rekeyResponse (x : Side) (answer : RekeyAnswer)
  | deleteRequest (x : Side) (t : RekeyTarget)
  /-- `found`: without INVALID_SPI -/
  | deleteResponse (x : Side) (t : RekeyTarget) (found : Bool)
  deriving DecidableEq, Repr

/-- who receives it -/
def CollisionMsg.to : CollisionMsg → Side
  | .rekeyRequest x _ => x.other
  | .rekeyResponse x _ => x
  | .deleteRequest x _ => x.other
  | .deleteResponse x _ _ => x

/-- one end -/
structure ChildPeer where
  old : PeerChild
  rekeyInprogress : Bool
  rekeyDuplicate : Bool
  /-- the new Child SA that it initiated -/
  own : Option PeerChild
  /-- the new Child SA that the peer initiated; `rekey_duplicate_message_id` is its message id -/
  theirs : Option PeerChild
  /-- the rekey request of the peer was answered -/
  answered : Bool
  deriving DecidableEq, Repr

/-- the old Child SA is MATURE, and nobody rekeys it -/
def ChildPeer.start : ChildPeer :=
  ⟨⟨[], [], .mature, false, false⟩, false, false, none, none, false⟩

/-! ## one end -/

section
variable (e : ChildPeer) (me : Side)

/-- `ikev2_rekey_childsa`, up to the request; each side rekeys the Child SA once -/
def ChildPeer.rekeyChildsa (n : Bytes) : ChildPeer × List CollisionMsg :=
  if e.old.state = .mature ∧ e.rekeyInprogress = false ∧ e.own = none then
    ({ e with rekeyInprogress := true, own := some ⟨n, [], .waitResponse, false, false⟩ },
      [.rekeyRequest me n])
  else (e, [])

/-- `ikev2_createchild_responder_recv` with the response, for a request that was not answered -/
def ChildPeer.createchildResponderRecv (nI nR : Bytes) : ChildPeer × List CollisionMsg :=
  if e.answered then (e, [])
  else if e.old.state = .mature then
    ({ e with
        rekeyDuplicate := e.rekeyDuplicate || e.rekeyInprogress
        rekeyInprogress := true
        theirs := some ⟨nI, nR, .mature, false, false⟩
        answered := true },
      [.rekeyResponse me.other (.accepted nR)])
  else ({ e with answered := true }, [.rekeyResponse me.other .notFound])

/-- `ikev2_initiator_rekey_finalize`, with `ikev2_child_delete` -/
def ChildPeer.initiatorRekeyFinalize (c : PeerChild) : ChildPeer × List CollisionMsg :=
  if e.old.state ≠ .mature then (e, [])
  else if e.rekeyDuplicate then
    match e.theirs with
    | none => (e, [])
    | some d =>
      if nonceLt (lowNonce c.nI c.nR) (lowNonce d.nI d.nR) then
        ({ e with own := some { c with deleteSent := true } }, [.deleteRequest me .own])
      else (e, [])
  else if e.old.deleteSent then (e, [])
  else ({ e with old := { e.old with deleteSent := true } }, [.deleteRequest me .old])

/-- `ikev2_child_abort` of the new Child SA -/
def ChildPeer.childAbort (c : PeerChild) : ChildPeer :=
  { e with
    own := some { c with state := .expired }
    rekeyInprogress := if e.old.state = .mature then false else e.rekeyInprogress }

/-- `ikev2_createchild_initiator_recv` -/
def ChildPeer.createchildInitiatorRecv (answer : RekeyAnswer) : ChildPeer × List CollisionMsg :=
  match e.own with
  | none => (e, [])
  | some c =>
    if c.state = .waitResponse then
      match answer with
      | .accepted nR =>
        ChildPeer.initiatorRekeyFinalize { e with own := some { c with nR := nR, state := .mature } } me
          { c with nR := nR, state := .mature }
      | .notFound => (e.childAbort c, [])
    else (e, [])

/-- `ikev2_process_delete` in a request, for the Child SA with the SPI -/
def PeerChild.processDelete (c : PeerChild) : PeerChild × Bool :=
  if c.state = .mature then
    ({ c with state := if c.deleteSent then .mature else .expired, deleteAnswered := true }, true)
  else ({ c with deleteAnswered := true }, false)

/-- `informational_responder_recv`, for a DELETE that was not answered -/
def ChildPeer.deleteRecv (t : RekeyTarget) : ChildPeer × List CollisionMsg :=
  match t with
  | .old =>
    if e.old.deleteAnswered then (e, [])
    else ({ e with old := e.old.processDelete.1 },
      [.deleteResponse me.other .old e.old.processDelete.2])
  | .own =>
    match e.theirs with
    | none => (e, [.deleteResponse me.other .own false])
    | some c =>
      if c.deleteAnswered then (e, [])
      else ({ e with theirs := some c.processDelete.1 },
        [.deleteResponse me.other .own c.processDelete.2])

/-- our DELETE for it is not answered -/
def PeerChild.deleting (c : PeerChild) : Bool := c.deleteSent && c.state == .mature

def PeerChild.expire (c : PeerChild) : PeerChild := { c with state := .expired }

/-- `ikev2_child_delete_callback(REQUEST_CALLBACK_RESPONSE)` -/
def ChildPeer.deleteCallback (t : RekeyTarget) : ChildPeer :=
  match t with
  | .old => { e with old := e.old.expire }
  | .own => { e with own := e.own.map PeerChild.expire }

/-- `ikev2_abort`, which INVALID_SPI leads to -/
def ChildPeer.abort : ChildPeer :=
  { e with
    old := e.old.expire, own := e.own.map PeerChild.expire, theirs := e.theirs.map PeerChild.expire }

/-- `informational_initiator_recv`, for a DELETE that is not answered -/
def ChildPeer.deleteResponse (t : RekeyTarget) (found : Bool) : ChildPeer :=
  if (match t with
    | .old => e.old.deleting
    | .own => e.own.any PeerChild.deleting) then
    if found then e.deleteCallback t else e.abort
  else e

/-- a message; `n` is the nonce of the response, if there is one -/
def ChildPeer.recv (n : Bytes) : CollisionMsg → ChildPeer × List CollisionMsg
  | .rekeyRequest _ nI => e.createchildResponderRecv me nI n
  | .rekeyResponse _ answer => e.createchildInitiatorRecv me answer
  | .deleteRequest _ t => e.deleteRecv me t
  | .deleteResponse _ t found => (e.deleteResponse t found, [])

end

/-! ## both ends -/

abbrev Collision := Sys ChildPeer CollisionMsg

def Collision.start : Collision := ⟨fun _ => .start, []⟩

inductive CollisionEvent where
  /-- a side starts a rekey with the nonce `n` -/
  | rekey (x : Side) (n : Bytes)
  /-- a copy of a message arrives -/
  | deliver (m : CollisionMsg) (n : Bytes)
  deriving DecidableEq, Repr

section
variable (w : Collision)

def collisionStep : CollisionEvent → Collision
  | .rekey x n => w.put x ((w.ends x).rekeyChildsa x n)
  | .deliver m n => if m ∈ w.wire then w.put m.to ((w.ends m.to).recv m.to n m) else w

/-- it waits for the response to its rekey request -/
def ChildPeer.Waiting (e : ChildPeer) : Prop := ∃ c ∈ e.own, c.state = .waitResponse

instance ChildPeer.Waiting.decidable (e : ChildPeer) : Decidable e.Waiting :=
  inferInstanceAs (Decidable (∃ c ∈ e.own, _))

/-- a request to rekey the Child SA comes to `x` before `x` has answered one; where `x` waits for the
response to its own, the peer has not answered that; where `x` has that response, and still has the
old Child SA, the peer has it as well and will lose the comparison -/
def Collision.requestOk (x : Side) (nI nR : Bytes) : Prop :=
  (w.ends x).answered = false → (w.ends x).old.state = .mature → ∀ c ∈ (w.ends x).own,
    if c.state = .waitResponse then (w.ends x.other).answered = false
    else (w.ends x.other).old.state = .mature
      ∧ nonceLt (lowNonce nI nR) (lowNonce c.nI c.nR) = true

instance Collision.requestOk.decidable (x : Side) (nI nR : Bytes) :
    Decidable (w.requestOk x nI nR) :=
  inferInstanceAs (Decidable (_ → _ → ∀ c ∈ (w.ends x).own, _))

/-- the old Child SA is not deleted under a side that waits for a response the peer has sent -/
def Collision.deleteOldOk (x : Side) : Prop :=
  (w.ends x.other).old.deleteAnswered = false → (w.ends x.other).Waiting →
    (w.ends x).answered = false

instance Collision.deleteOldOk.decidable (x : Side) : Decidable (w.deleteOldOk x) :=
  inferInstanceAs (Decidable (_ → _ → _))

def collisionOk : CollisionEvent → Prop
  | .deliver (.rekeyRequest x nI) n => w.requestOk x.other nI n
  | .deliver (.deleteRequest x .old) _ => w.deleteOldOk x
  | _ => True

instance collisionOk.decidable : ∀ ev, Decidable (collisionOk w ev)
  | .rekey _ _ => inferInstanceAs (Decidable True)
  | .deliver (.rekeyRequest x nI) n => inferInstanceAs (Decidable (w.requestOk x.other nI n))
  | .deliver (.rekeyResponse _ _) _ => inferInstanceAs (Decidable True)
  | .deliver (.deleteRequest x .old) _ => inferInstanceAs (Decidable (w.deleteOldOk x))
  | .deliver (.deleteRequest _ .own) _ => inferInstanceAs (Decidable True)
  | .deliver (.deleteResponse _ _ _) _ => inferInstanceAs (Decidable True)

end

/-! ## the phases -/

/-- Two rekeys, that of the first side with the nonces `n` and `r`, that of the second side with `m`
and `s`. -/
inductive CollisionPhase where
  | idle
  | one (n : Bytes)
  | both (n m : Bytes)
  /-- the request of the first side is answered, and the second side does not rekey -/
  | served (n r : Bytes)
  /-- the same, and the second side waits as well -/
  | crossed (n r m : Bytes)
  /-- the first side deletes the old Child SA, and the second side does not rekey -/
  | alone (n r : Bytes) (d : Stage)
  /-- the same, and the request of the second side is not answered -/
  | ahead (n r m : Bytes) (d : Stage)
  /-- it is, when the old Child SA is gone -/
  | refused (n r m : Bytes)
  | aborted (n r m : Bytes)
  /-- it is, before the old Child SA is gone -/
  | late (n r m s : Bytes)
  /-- the second side deletes its new Child SA -/
  | lost (n r m s : Bytes) (d q : Stage)
  deriving DecidableEq, Repr

namespace CollisionPhase

/-- a new Child SA -/
def live (nI nR : Bytes) : PeerChild := ⟨nI, nR, .mature, false, false⟩

def waiting (n : Bytes) : PeerChild := ⟨n, [], .waitResponse, false, false⟩

/-- a Child SA at the side that deletes it -/
def near (d : Stage) (nI nR : Bytes) : PeerChild :=
  ⟨nI, nR, if d = .ended then .expired else .mature, true, false⟩

/-- the same Child SA at the other side -/
def far (d : Stage) (nI nR : Bytes) : PeerChild :=
  ⟨nI, nR, if d.isAnswered then .expired else .mature, false, d.isAnswered⟩

def first : CollisionPhase → ChildPeer
  | idle => .start
  | one n | both n _ | served n _ | crossed n _ _ =>
    ⟨live [] [], true, false, some (waiting n), none, false⟩
  | alone n r d | ahead n r _ d => ⟨near d [] [], true, false, some (live n r), none, false⟩
  | refused n r _ | aborted n r _ => ⟨near .ended [] [], true, false, some (live n r), none, true⟩
  | late n r m s => ⟨near .sent [] [], true, true, some (live n r), some (live m s), true⟩
  | lost n r m s d q => ⟨near d [] [], true, true, some (live n r), some (far q m s), true⟩

def second : CollisionPhase → ChildPeer
  | idle | one _ => .start
  | both _ m => ⟨live [] [], true, false, some (waiting m), none, false⟩
  | served n r => ⟨live [] [], true, false, none, some (live n r), true⟩
  | crossed n r m => ⟨live [] [], true, true, some (waiting m), some (live n r), true⟩
  | alone n r d => ⟨far d [] [], true, false, none, some (live n r), true⟩
  | ahead n r m d => ⟨far d [] [], true, true, some (waiting m), some (live n r), true⟩
  | refused n r m => ⟨far .ended [] [], true, true, some (waiting m), some (live n r), true⟩
  | aborted n r m => ⟨far .ended [] [], true, true, some (waiting m).expire, some (live n r), true⟩
  | late n r m s => ⟨live [] [], true, true, some (waiting m), some (live n r), true⟩
  | lost n r m s d q => ⟨far d [] [], true, true, some (near q m s), some (live n r), true⟩

/-- the messages so far -/
def sent (x : Side) : CollisionPhase → List CollisionMsg
  | idle => []
  | one n => [.rekeyRequest x n]
  | both n m => [.rekeyRequest x n, .rekeyRequest x.other m]
  | served n r => [.rekeyRequest x n, .rekeyResponse x (.accepted r)]
  | crossed n r m =>
    [.rekeyRequest x n, .rekeyResponse x (.accepted r), .rekeyRequest x.other m]
  | alone n r d =>
    [.rekeyRequest x n, .rekeyResponse x (.accepted r), .deleteRequest x .old]
      ++ d.replies (.deleteResponse x .old true)
  | ahead n r m d =>
    [.rekeyRequest x n, .rekeyResponse x (.accepted r), .rekeyRequest x.other m,
      .deleteRequest x .old] ++ d.replies (.deleteResponse x .old true)
  | refused n r m | aborted n r m =>
    [.rekeyRequest x n, .rekeyResponse x (.accepted r), .rekeyRequest x.other m,
      .deleteRequest x .old, .deleteResponse x .old true, .rekeyResponse x.other .notFound]
  | late n r m s =>
    [.rekeyRequest x n, .rekeyResponse x (.accepted r), .rekeyRequest x.other m,
      .deleteRequest x .old, .rekeyResponse x.other (.accepted s)]
  | lost n r m s d q =>
    [.rekeyRequest x n, .rekeyResponse x (.accepted r), .rekeyRequest x.other m,
      .deleteRequest x .old, .rekeyResponse x.other (.accepted s), .deleteRequest x.other .own]
      ++ (d.replies (.deleteResponse x .old true) ++ q.replies (.deleteResponse x.other .own true))

/-- the second side loses the comparison -/
def Lower : CollisionPhase → Prop
  | late n r m s | lost n r m s _ _ => nonceLt (lowNonce m s) (lowNonce n r) = true
  | _ => True

end CollisionPhase

def collisionChart : Chart ChildPeer CollisionMsg CollisionPhase :=
  ⟨fun _ => CollisionPhase.first, fun _ => CollisionPhase.second, CollisionPhase.sent,
    fun _ => CollisionPhase.Lower⟩

/-- a copy of `m` arrives -/
def Collision.arrive (w : Collision) (n : Bytes) (m : CollisionMsg) : Collision :=
  w.put m.to ((w.ends m.to).recv m.to n m)

section
variable {w : Collision} {x : Side} {p : CollisionPhase} {m : CollisionMsg} {n k r l s : Bytes}
  {d q : Stage}

/-- it arrives at the first side -/
theorem arrive_first (h : collisionChart.At w x p) (hto : m.to = x)
    (hgo : collisionChart.Phased (w.put x (p.first.recv x n m))) :
    collisionChart.Phased (w.arrive n m) :=
  h.atFirst (fun (x : Side) (e : ChildPeer) => e.recv x n m) hto hgo

theorem arrive_second (h : collisionChart.At w x p) (hto : m.to = x.other)
    (hgo : collisionChart.Phased (w.put x.other (p.second.recv x.other n m))) :
    collisionChart.Phased (w.arrive n m) :=
  h.atSecond (fun (x : Side) (e : ChildPeer) => e.recv x n m) hto hgo

namespace CollisionPhase

theorem recv_one (h : collisionChart.At w x (.one k)) (hs : m ∈ sent x (.one k)) :
    collisionChart.Phased (w.arrive n m) := by
  cases List.mem_singleton.mp hs
  refine arrive_second h rfl ?_
  have hnext : collisionChart.At (w.put x.other (ChildPeer.start.recv x.other n (.rekeyRequest x k)))
      x (.served k n) := by
    refine h.putSecond rfl rfl (fun o ho => ?_) (fun o ho => ?_) trivial
    · exact List.mem_cons.mpr (Or.inl (List.mem_singleton.mp ho))
    · rw [List.mem_singleton.mp ho, Side.other_other]
      exact List.mem_cons_of_mem _ List.mem_cons_self
  exact ⟨x, _, hnext⟩

/-- the request of the first side -/
theorem recv_both_first (h : collisionChart.At w x (.both k l)) :
    collisionChart.Phased (w.arrive n (.rekeyRequest x k)) := by
  refine arrive_second h rfl ?_
  have hnext : collisionChart.At (w.put x.other ((both k l).second.recv x.other n
      (.rekeyRequest x k))) x (.crossed k n l) := by
    refine h.putSecond rfl rfl (fun o ho => ?_) (fun o ho => ?_) trivial
    · have hmem : o ∈ sent x (.both k l) := ho
      show o ∈ sent x (.crossed k n l)
      simp only [sent, List.mem_cons, List.not_mem_nil, or_false] at hmem ⊢
      exact hmem.imp_right Or.inr
    · rw [List.mem_singleton.mp ho, Side.other_other]
      exact List.mem_cons_of_mem _ List.mem_cons_self
  exact ⟨x, _, hnext⟩

theorem recv_both (h : collisionChart.At w x (.both k l)) (hs : m ∈ sent x (.both k l)) :
    collisionChart.Phased (w.arrive n m) := by
  simp only [sent, List.mem_cons, List.not_mem_nil, or_false] at hs
  rcases hs with rfl | rfl
  · exact recv_both_first h
  · have hturn : collisionChart.At w x.other (.both l k) := by
      refine h.turn rfl rfl (fun o ho => ?_) trivial
      have hmem : o ∈ sent x (.both k l) := ho
      show o ∈ sent x.other (.both l k)
      simp only [sent, List.mem_cons, List.not_mem_nil, or_false, Side.other_other] at hmem ⊢
      exact hmem.symm
    exact recv_both_first hturn

theorem recv_served (h : collisionChart.At w x (.served k r)) (hs : m ∈ sent x (.served k r)) :
    collisionChart.Phased (w.arrive n m) := by
  simp only [sent, List.mem_cons, List.not_mem_nil, or_false] at hs
  rcases hs with rfl | rfl
  · exact arrive_second h rfl (h.staySecond rfl)
  · refine arrive_first h rfl ?_
    have hnext : collisionChart.At (w.put x ((served k r).first.recv x n
        (.rekeyResponse x (.accepted r)))) x (.alone k r .sent) := by
      refine h.putFirst rfl rfl (fun o ho => ?_) (fun o ho => ?_) trivial
      · exact List.mem_append_left _ (List.mem_append_left [CollisionMsg.deleteRequest x .old] ho)
      · rw [List.mem_singleton.mp ho]
        simp [collisionChart, sent]
    exact ⟨x, _, hnext⟩

theorem recv_crossed (h : collisionChart.At w x (.crossed k r l))
    (hs : m ∈ sent x (.crossed k r l)) (hok : collisionOk w (.deliver m n)) :
    collisionChart.Phased (w.arrive n m) := by
  simp only [sent, List.mem_cons, List.not_mem_nil, or_false] at hs
  rcases hs with rfl | rfl | rfl
  · exact arrive_second h rfl (h.staySecond rfl)
  · refine arrive_first h rfl ?_
    have hnext : collisionChart.At (w.put x ((crossed k r l).first.recv x n
        (.rekeyResponse x (.accepted r)))) x (.ahead k r l .sent) := by
      refine h.putFirst rfl rfl (fun o ho => ?_) (fun o ho => ?_) trivial
      · exact List.mem_append_left _ (List.mem_append_left [CollisionMsg.deleteRequest x .old] ho)
      · rw [List.mem_singleton.mp ho]
        simp [collisionChart, sent]
    exact ⟨x, _, hnext⟩
  · -- both would wait, with both requests answered
    have hno : Collision.requestOk w x.other.other l n := hok
    rw [Side.other_other] at hno
    unfold Collision.requestOk at hno
    rw [h.first, h.second] at hno
    exact nomatch hno rfl rfl _ rfl

/-- phases that differ in how far the DELETE of `x` for the old Child SA is -/
structure DeletesOld (x : Side) (P : Stage → CollisionPhase) (base : List CollisionMsg) :
    Prop where
  first : ∀ d, (P d).first = { (P .sent).first with old := near d [] [] }
  second : ∀ d, (P d).second = { (P .sent).second with old := far d [] [] }
  sent : ∀ d o, o ∈ (P d).sent x ↔ o ∈ base ∨ o ∈ d.replies (.deleteResponse x .old true)

section
variable {P : Stage → CollisionPhase} {base : List CollisionMsg}

theorem DeletesOld.request (hP : DeletesOld x P base) (h : collisionChart.At w x (P d))
    (hlow : (P d.answer).Lower) :
    collisionChart.Phased (w.put x.other ((P d).second.recv x.other n (.deleteRequest x .old))) := by
  refine ⟨x, P d.answer, h.putSecond ?_ ?_ (fun o ho => ?_) (fun o ho => ?_) hlow⟩
  · show (P d.answer).second = _
    rw [hP.second d.answer, hP.second d]
    cases d <;> rfl
  · show (P d.answer).first = (P d).first
    rw [hP.first d.answer, hP.first d]
    cases d <;> rfl
  · exact (hP.sent _ _).mpr (((hP.sent _ _).mp ho).imp_right Stage.replies_answer)
  · rw [hP.second d] at ho
    have hfresh : o ∈ d.fresh (CollisionMsg.deleteResponse x.other.other .old true) := by
      cases d <;> exact ho
    rw [Side.other_other] at hfresh
    exact (hP.sent _ _).mpr (Or.inr (Stage.replies_fresh hfresh))

theorem DeletesOld.response (hP : DeletesOld x P base) (h : collisionChart.At w x (P d))
    (hd : d.isAnswered = true) (hlow : (P d.finish).Lower) :
    collisionChart.Phased (w.put x ((P d).first.recv x n (.deleteResponse x .old true))) := by
  refine ⟨x, P d.finish, h.putFirst ?_ ?_ (fun o ho => ?_) (fun o ho => nomatch ho) hlow⟩
  · show (P d.finish).first = _
    rw [hP.first d.finish, hP.first d]
    cases d with
    | sent => cases hd
    | answered => rfl
    | ended => rfl
  · show (P d.finish).second = (P d).second
    rw [hP.second d.finish, hP.second d]
    cases d <;> rfl
  · exact (hP.sent _ _).mpr (((hP.sent _ _).mp ho).imp_right Stage.replies_finish)

end

theorem deletesOld_alone (x : Side) (k r : Bytes) : DeletesOld x (.alone k r)
    [.rekeyRequest x k, .rekeyResponse x (.accepted r), .deleteRequest x .old] :=
  ⟨fun _ => rfl, fun _ => rfl, fun _ _ => List.mem_append⟩

theorem deletesOld_ahead (x : Side) (k r l : Bytes) : DeletesOld x (.ahead k r l)
    [.rekeyRequest x k, .rekeyResponse x (.accepted r), .rekeyRequest x.other l,
      .deleteRequest x .old] :=
  ⟨fun _ => rfl, fun _ => rfl, fun _ _ => List.mem_append⟩

theorem deletesOld_lost (x : Side) (k r l s : Bytes) (q : Stage) :
    DeletesOld x (fun d => .lost k r l s d q)
      ([.rekeyRequest x k, .rekeyResponse x (.accepted r), .rekeyRequest x.other l,
        .deleteRequest x .old, .rekeyResponse x.other (.accepted s), .deleteRequest x.other .own]
        ++ q.replies (.deleteResponse x.other .own true)) := by
  refine ⟨fun _ => rfl, fun _ => rfl, fun d o => ?_⟩
  simp only [CollisionPhase.sent, List.mem_append]
  tauto

theorem recv_alone (h : collisionChart.At w x (.alone k r d)) (hs : m ∈ sent x (.alone k r d)) :
    collisionChart.Phased (w.arrive n m) := by
  have hP := deletesOld_alone x k r
  simp only [hP.sent, List.mem_cons, List.not_mem_nil, or_false] at hs
  rcases hs with (rfl | rfl | rfl) | hs
  · exact arrive_second h rfl (h.staySecond rfl)
  · exact arrive_first h rfl (h.stayFirst rfl)
  · exact arrive_second h rfl (hP.request h trivial)
  · obtain ⟨rfl, hd⟩ := Stage.of_mem_replies hs
    exact arrive_first h rfl (hP.response h hd trivial)

/-- the late request of the second side finds the old Child SA or not -/
theorem recv_ahead_request (h : collisionChart.At w x (.ahead k r l d))
    (hok : Collision.requestOk w x l n) :
    collisionChart.Phased (w.put x ((ahead k r l d).first.recv x n (.rekeyRequest x.other l))) := by
  unfold Collision.requestOk at hok
  rw [h.first, h.second] at hok
  cases d with
  | sent =>
    obtain ⟨_, hlow⟩ := hok rfl rfl _ rfl
    refine ⟨x, .late k r l n, h.putFirst rfl rfl (fun o ho => ?_) (fun o ho => ?_) hlow⟩
    · exact List.mem_append_left [CollisionMsg.rekeyResponse x.other (.accepted n)] ho
    · exact List.mem_append_right [CollisionMsg.rekeyRequest x k, .rekeyResponse x (.accepted r),
        .rekeyRequest x.other l, .deleteRequest x .old] ho
  | answered =>
    obtain ⟨hold, _⟩ := hok rfl rfl _ rfl
    cases hold
  | ended =>
    refine ⟨x, .refused k r l, h.putFirst rfl rfl (fun o ho => ?_) (fun o ho => ?_) trivial⟩
    · exact List.mem_append_left [CollisionMsg.rekeyResponse x.other .notFound] ho
    · exact List.mem_append_right [CollisionMsg.rekeyRequest x k, .rekeyResponse x (.accepted r),
        .rekeyRequest x.other l, .deleteRequest x .old, .deleteResponse x .old true] ho

theorem recv_ahead (h : collisionChart.At w x (.ahead k r l d)) (hs : m ∈ sent x (.ahead k r l d))
    (hok : collisionOk w (.deliver m n)) : collisionChart.Phased (w.arrive n m) := by
  have hP := deletesOld_ahead x k r l
  simp only [hP.sent, List.mem_cons, List.not_mem_nil, or_false] at hs
  rcases hs with (rfl | rfl | rfl | rfl) | hs
  · exact arrive_second h rfl (h.staySecond rfl)
  · exact arrive_first h rfl (h.stayFirst rfl)
  · have hreq : Collision.requestOk w x.other.other l n := hok
    rw [Side.other_other] at hreq
    exact arrive_first h x.other_other (recv_ahead_request h hreq)
  · exact arrive_second h rfl (hP.request h trivial)
  · obtain ⟨rfl, hd⟩ := Stage.of_mem_replies hs
    exact arrive_first h rfl (hP.response h hd trivial)

theorem recv_refused (h : collisionChart.At w x (.refused k r l))
    (hs : m ∈ sent x (.refused k r l)) : collisionChart.Phased (w.arrive n m) := by
  simp only [sent, List.mem_cons, List.not_mem_nil, or_false] at hs
  rcases hs with rfl | rfl | rfl | rfl | rfl | rfl
  · exact arrive_second h rfl (h.staySecond rfl)
  · exact arrive_first h rfl (h.stayFirst rfl)
  · exact arrive_first h x.other_other (h.stayFirst rfl)
  · exact arrive_second h rfl (h.staySecond rfl)
  · exact arrive_first h rfl (h.stayFirst rfl)
  · refine arrive_second h rfl ⟨x, .aborted k r l, ?_⟩
    exact h.putSecond rfl rfl (fun _ ho => ho) (fun _ ho => nomatch ho) trivial

theorem recv_aborted (h : collisionChart.At w x (.aborted k r l))
    (hs : m ∈ sent x (.aborted k r l)) : collisionChart.Phased (w.arrive n m) := by
  simp only [sent, List.mem_cons, List.not_mem_nil, or_false] at hs
  rcases hs with rfl | rfl | rfl | rfl | rfl | rfl
  · exact arrive_second h rfl (h.staySecond rfl)
  · exact arrive_first h rfl (h.stayFirst rfl)
  · exact arrive_first h x.other_other (h.stayFirst rfl)
  · exact arrive_second h rfl (h.staySecond rfl)
  · exact arrive_first h rfl (h.stayFirst rfl)
  · exact arrive_second h rfl (h.staySecond rfl)

/-- the second side gives its new Child SA up -/
theorem recv_late_response (hlow : nonceLt (lowNonce l s) (lowNonce k r) = true) :
    (late k r l s).second.recv x.other n (.rekeyResponse x.other (.accepted s))
      = ((lost k r l s .sent .sent).second, [.deleteRequest x.other .own]) := by
  show (if nonceLt (lowNonce l s) (lowNonce k r) = true then _ else _) = _
  rw [if_pos hlow]
  rfl

theorem recv_late (h : collisionChart.At w x (.late k r l s)) (hs : m ∈ sent x (.late k r l s))
    (hok : collisionOk w (.deliver m n)) : collisionChart.Phased (w.arrive n m) := by
  simp only [sent, List.mem_cons, List.not_mem_nil, or_false] at hs
  rcases hs with rfl | rfl | rfl | rfl | rfl
  · exact arrive_second h rfl (h.staySecond rfl)
  · exact arrive_first h rfl (h.stayFirst rfl)
  · exact arrive_first h x.other_other (h.stayFirst rfl)
  · -- the second side would not find the old Child SA when its response comes
    have hno : Collision.deleteOldOk w x := hok
    unfold Collision.deleteOldOk at hno
    rw [h.first, h.second] at hno
    exact nomatch hno rfl ⟨_, rfl, rfl⟩
  · refine arrive_second h rfl ⟨x, .lost k r l s .sent .sent, ?_⟩
    rw [recv_late_response h.fine]
    refine h.putSecond rfl rfl (fun o ho => ?_) (fun o ho => ?_) h.fine
    · exact List.mem_append_left _ (List.mem_append_left [CollisionMsg.deleteRequest x.other .own] ho)
    · exact List.mem_append_left _ (List.mem_append_right [CollisionMsg.rekeyRequest x k,
        .rekeyResponse x (.accepted r), .rekeyRequest x.other l, .deleteRequest x .old,
        .rekeyResponse x.other (.accepted s)] ho)

/-- the second side's DELETE for its own new Child SA -/
theorem recv_lost_request (h : collisionChart.At w x (.lost k r l s d q)) :
    collisionChart.Phased
      (w.put x ((lost k r l s d q).first.recv x n (.deleteRequest x.other .own))) := by
  refine ⟨x, .lost k r l s d q.answer, h.putFirst ?_ ?_ (fun o ho => ?_) (fun o ho => ?_) h.fine⟩
  · cases q <;> rfl
  · cases q <;> rfl
  · exact (List.mem_append.mp ho).elim (List.mem_append_left _) fun ho =>
      List.mem_append_right _ (Stage.append_answer ho)
  · have hfresh : o ∈ q.fresh (CollisionMsg.deleteResponse x.other .own true) := by
      cases q <;> exact ho
    exact List.mem_append_right _ (List.mem_append_right _ (Stage.replies_fresh hfresh))

theorem recv_lost_response (h : collisionChart.At w x (.lost k r l s d q))
    (hq : q.isAnswered = true) :
    collisionChart.Phased (w.put x.other ((lost k r l s d q).second.recv x.other n
      (.deleteResponse x.other .own true))) := by
  refine ⟨x, .lost k r l s d q.finish, h.putSecond ?_ ?_ (fun o ho => ?_) (fun o ho => nomatch ho)
    h.fine⟩
  · cases q with
    | sent => cases hq
    | answered => rfl
    | ended => rfl
  · cases q <;> rfl
  · exact (List.mem_append.mp ho).elim (List.mem_append_left _) fun ho =>
      List.mem_append_right _ (Stage.append_finish ho)

theorem recv_lost (h : collisionChart.At w x (.lost k r l s d q))
    (hs : m ∈ sent x (.lost k r l s d q)) : collisionChart.Phased (w.arrive n m) := by
  have hP := deletesOld_lost x k r l s q
  simp only [sent, List.mem_append, List.mem_cons, List.not_mem_nil, or_false] at hs
  rcases hs with (rfl | rfl | rfl | rfl | rfl | rfl) | hs | hs
  · exact arrive_second h rfl (h.staySecond rfl)
  · exact arrive_first h rfl (h.stayFirst rfl)
  · exact arrive_first h x.other_other (h.stayFirst rfl)
  · exact arrive_second h rfl (hP.request h h.fine)
  · refine arrive_second h rfl (h.staySecond ?_)
    cases q <;> rfl
  · exact arrive_first h x.other_other (recv_lost_request h)
  · obtain ⟨rfl, hd⟩ := Stage.of_mem_replies hs
    exact arrive_first h rfl (hP.response h hd h.fine)
  · obtain ⟨rfl, hq⟩ := Stage.of_mem_replies hs
    exact arrive_second h rfl (recv_lost_response h hq)

/-- a message that was sent -/
theorem recv (h : collisionChart.At w x p) (hs : m ∈ p.sent x) (hok : collisionOk w (.deliver m n)) :
    collisionChart.Phased (w.arrive n m) := by
  cases p with
  | idle => cases hs
  | one k => exact recv_one h hs
  | both k l => exact recv_both h hs
  | served k r => exact recv_served h hs
  | crossed k r l => exact recv_crossed h hs hok
  | alone k r d => exact recv_alone h hs
  | ahead k r l d => exact recv_ahead h hs hok
  | refused k r l => exact recv_refused h hs
  | aborted k r l => exact recv_aborted h hs
  | late k r l s => exact recv_late h hs hok
  | lost k r l s d q => exact recv_lost h hs

end CollisionPhase

end

/-! ## every run -/

/-- no response is waited for -/
def ChildPeer.Settled (e : ChildPeer) : Prop :=
  ¬ e.Waiting ∧ e.old.deleting = false ∧ e.own.any PeerChild.deleting = false

instance ChildPeer.Settled.decidable (e : ChildPeer) : Decidable e.Settled :=
  inferInstanceAs (Decidable (_ ∧ _ ∧ _))

def PeerChild.Live (c : PeerChild) : Prop := c.state = .mature

instance PeerChild.Live.decidable (c : PeerChild) : Decidable c.Live :=
  inferInstanceAs (Decidable (_ = _))

/-- The new Child SA that `x` initiated is the one that is left: both ends have it, neither has the
other one or the old one. -/
def Collision.LeftBy (w : Collision) (x : Side) : Prop :=
  (∃ c ∈ (w.ends x).own, ∃ d ∈ (w.ends x.other).theirs,
      c.Live ∧ d.Live ∧ c.nI = d.nI ∧ c.nR = d.nR)
    ∧ (∀ c ∈ (w.ends x).theirs, ¬ c.Live) ∧ (∀ c ∈ (w.ends x.other).own, ¬ c.Live)
    ∧ ¬ (w.ends x).old.Live ∧ ¬ (w.ends x.other).old.Live

instance Collision.LeftBy.decidable (w : Collision) (x : Side) : Decidable (w.LeftBy x) :=
  inferInstanceAs (Decidable (_ ∧ _ ∧ _ ∧ _ ∧ _))

end Ikev2
