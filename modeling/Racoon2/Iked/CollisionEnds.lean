import Racoon2.Iked.ChildRekey
import Racoon2.Iked.IkeCollision

/-!
# One end of two rekeys that collide

`ChildCollision` and `IkeCollision` have what two ends do to each other, `ChildRekey` and `RekeyIkeSa`
every way that the rekeys of one end go on.  Each end of the former is an end of the latter: a message
is answered by a run of events, which take a request or a response and the answer of the worker or the
kernel apart.  For the IKE SA this holds without additional key exchanges and until a DELETE arrives,
which `RekeyIkeSa` does not have.

* `ChildPeer.Marks`         the marks of an old Child SA, in both models;
* `collision_reached`       every run, for a Child SA;
* `IkePeer.Shows`           the marks, children and new IKE SAs of an old IKE SA, in both models;
* `ike_collision_reached`   every run, for an IKE SA.
-/

set_option linter.unusedVariables false

namespace Ikev2

open TwoParty

/-! ## the old Child SA -/

/-- the marks of the old Child SA; while a response is waited for, the new Child SA is negotiated -/
structure ChildPeer.Marks (e : ChildPeer) (w : ChildRekey) : Prop where
  parent : w.parent = .established
  alive : w.alive = (e.old.state == .mature)
  deleteSent : e.old.state = .mature → w.deleteSent = e.old.deleteSent
  rekeyInprogress : w.rekeyInprogress = e.rekeyInprogress
  rekeyDuplicate : w.rekeyDuplicate = e.rekeyDuplicate
  followup : w.followupPending = false
  waits : e.Waiting → ∃ id c, id < w.nextId ∧ w.pending id = some c ∧ c.isInitiator = true

section
variable {e : ChildPeer} {w : ChildRekey}

theorem ChildPeer.not_waiting {c : PeerChild} (h : e.own = some c) (hc : c.state ≠ .waitResponse) :
    ¬ e.Waiting := by
  rintro ⟨d, hd, hstate⟩
  rw [h] at hd
  cases hd
  exact hc hstate

theorem ChildRekey.pending_setChild (w : ChildRekey) {id id' : Nat} (hne : id' ≠ id)
    {f : NewChild → NewChild} (hf : ∀ c, (f c).id = c.id) : (w.setChild id f).pending id' = w.pending id' := by
  show (w.news.map fun c => if c.id = id then f c else c).find? _ = w.news.find? _
  induction w.news with
  | nil => rfl
  | cons c cs ih =>
    by_cases hc : c.id = id
    · have hother : (c.id == id') = false := by
        rw [hc]
        exact beq_eq_false_iff_ne.mpr hne.symm
      rw [List.map_cons, if_pos hc, List.find?_cons_of_neg (by rw [hf, hother]; exact Bool.false_ne_true),
        List.find?_cons_of_neg (by rw [hother]; exact Bool.false_ne_true)]
      exact ih
    · rw [List.map_cons, if_neg hc, List.find?_cons, List.find?_cons, ih]

theorem ChildRekey.followupPending_setChild (h : w.followupPending = false) (id : Nat)
    {f : NewChild → NewChild} (hf : ∀ c, (f c).addkePending = true → c.addkePending = true)
    (hf' : ∀ c, (f c).isInitiator = c.isInitiator) : (w.setChild id f).followupPending = false := by
  unfold ChildRekey.followupPending at h ⊢
  rw [List.any_eq_false] at h ⊢
  intro c' hc'
  obtain ⟨c, hc, rfl⟩ := List.mem_map.mp hc'
  have hnone := h c hc
  rw [Bool.and_eq_true] at hnone ⊢
  split
  · rw [hf']
    exact fun hand => hnone ⟨hand.1, hf c hand.2⟩
  · exact hnone

/-- a Child SA that is complete has no additional key exchange before it -/
theorem ChildRekey.followup_mature (id : Nat) (h : w.followupPending = false) :
    (w.setChild id fun c => { c with stage := .mature, addkePending := false }).followupPending = false :=
  ChildRekey.followupPending_setChild h id (fun c hc => by cases hc) fun _ => rfl

/-- a new Child SA is the one that is negotiated -/
theorem ChildRekey.pending_moveTo (w : ChildRekey) (isInitiator : Bool) (mem : List Bool) :
    ∃ c, (w.moveTo isInitiator 0 .pending mem).pending w.nextId = some c ∧ c.isInitiator = isInitiator :=
  ⟨_, List.find?_cons_of_pos (by simp), rfl⟩

theorem ChildRekey.pending_moveTo_of_lt (w : ChildRekey) (isInitiator : Bool) (mem : List Bool) {id : Nat}
    (h : id < w.nextId) : (w.moveTo isInitiator 0 .pending mem).pending id = w.pending id :=
  List.find?_cons_of_neg (by simp [h.ne'])

/-- our rekey -/
theorem ChildPeer.Marks.rekeyChildsa (h : e.Marks w) (me : Side) (n : Bytes) :
    ∃ evs : List ChildRekeyEvent, (e.rekeyChildsa me n).1.Marks (evs.foldl childRekeyStep w) := by
  unfold ChildPeer.rekeyChildsa
  split_ifs with hif
  · obtain ⟨hmature, hidle, -⟩ := hif
    have halive : w.alive = true := by rw [h.alive, hmature]; rfl
    have hstep : childRekeyStep w (.expire (.started []))
        = ({ w with rekeyInprogress := true } : ChildRekey).moveTo true 0 .pending [] := by
      show expireSa w (.started []) = _
      unfold expireSa Ikev2.rekeyChildsa
      rw [if_neg (by rw [halive]; exact Bool.false_ne_true.symm),
        if_neg (by rw [h.rekeyInprogress, hidle]; exact Bool.false_ne_true)]
      exact if_neg (fun hne => hne h.parent)
    refine ⟨[.expire (.started [])], ?_⟩
    rw [List.foldl_cons, List.foldl_nil, hstep]
    refine ⟨h.parent, h.alive, h.deleteSent, rfl, h.rekeyDuplicate, h.followup, fun _ => ?_⟩
    obtain ⟨c, hc, hinit⟩ := ChildRekey.pending_moveTo ({ w with rekeyInprogress := true }) true []
    exact ⟨w.nextId, c, Nat.lt_succ_self _, hc, hinit⟩
  · exact ⟨[], h⟩

/-- the rekey of the peer -/
theorem ChildPeer.Marks.createchildResponderRecv (h : e.Marks w) (me : Side) (nI nR : Bytes) :
    ∃ evs : List ChildRekeyEvent,
      (e.createchildResponderRecv me nI nR).1.Marks (evs.foldl childRekeyStep w) := by
  unfold ChildPeer.createchildResponderRecv
  split_ifs with hanswered hmature
  · exact ⟨[], h⟩
  · have halive : w.alive = true := by rw [h.alive, hmature]; rfl
    have hrequest : childRekeyStep w (.request 0 (.accepted [])) = (w.mark 0).moveTo false 0 .pending [] := by
      show Ikev2.createchildResponderRecv w 0 (.accepted []) = _
      unfold Ikev2.createchildResponderRecv
      rw [if_neg (by rw [h.parent]; decide), if_neg (by rw [halive]; exact Bool.false_ne_true.symm),
        if_neg (by rw [h.followup]; exact Bool.false_ne_true)]
      rfl
    obtain ⟨c, hc, hinit⟩ := (w.mark 0).pending_moveTo false []
    have hinstall : childRekeyStep ((w.mark 0).moveTo false 0 .pending []) (.install w.nextId)
        = { ((w.mark 0).moveTo false 0 .pending []).setChild w.nextId fun c =>
              { c with stage := .mature, addkePending := false } with installed := true } := by
      show ChildRekey.install _ _ = _
      unfold ChildRekey.install
      rw [show w.nextId = (w.mark 0).nextId from rfl, hc]
      dsimp only
      rw [if_neg (by rw [hinit]; exact Bool.false_ne_true)]
    refine ⟨[.request 0 (.accepted []), .install w.nextId], ?_⟩
    rw [List.foldl_cons, hrequest, List.foldl_cons, hinstall, List.foldl_nil]
    refine ⟨h.parent, h.alive, h.deleteSent, rfl, ?_, ChildRekey.followup_mature _ h.followup, ?_⟩
    · show (w.rekeyDuplicate || w.rekeyInprogress) = (e.rekeyDuplicate || e.rekeyInprogress)
      rw [h.rekeyDuplicate, h.rekeyInprogress]
    · intro hwaits
      obtain ⟨id, d, hlt, hd, hours⟩ := h.waits hwaits
      refine ⟨id, d, Nat.lt_succ_of_lt hlt, ?_, hours⟩
      show (((w.mark 0).moveTo false 0 .pending []).setChild w.nextId fun c =>
        { c with stage := .mature, addkePending := false }).pending id = some d
      rw [ChildRekey.pending_setChild _ hlt.ne, (w.mark 0).pending_moveTo_of_lt false [] hlt]
      · exact hd
      · exact fun _ => rfl
  · exact ⟨[], h.parent, h.alive, h.deleteSent, h.rekeyInprogress, h.rekeyDuplicate, h.followup, h.waits⟩

/-- `ikev2_initiator_rekey_finalize` -/
theorem ChildPeer.Marks.rekeyFinalize (h : e.Marks w) {c : PeerChild} (hown : e.own = some c)
    (hc : c.state = .mature) (me : Side) :
    (e.initiatorRekeyFinalize me c).1.Marks (Ikev2.rekeyFinalize w) := by
  have hours : ∀ e' : ChildPeer, ∀ d : PeerChild, e'.own = some d → d.state = .mature → ¬ e'.Waiting := by
    intro e' d hd hstate
    refine ChildPeer.not_waiting hd ?_
    rw [hstate]
    decide
  unfold ChildPeer.initiatorRekeyFinalize Ikev2.rekeyFinalize
  by_cases hold : e.old.state = .mature
  · have halive : w.alive = true := by
      rw [h.alive, hold]
      rfl
    rw [if_neg (not_not.mpr hold)]
    by_cases hdup : e.rekeyDuplicate = true
    · have hstays : ¬ (w.alive && !w.rekeyDuplicate) = true := by
        rw [h.rekeyDuplicate, hdup, Bool.not_true, Bool.and_false]
        exact Bool.false_ne_true
      rw [if_pos hdup, if_neg hstays]
      split
      · exact h
      · split_ifs
        · refine ⟨h.parent, h.alive, h.deleteSent, h.rekeyInprogress, h.rekeyDuplicate, h.followup,
            fun hwaits => ?_⟩
          exact absurd hwaits (hours _ _ rfl hc)
        · exact h
    · have hdeletes : (w.alive && !w.rekeyDuplicate) = true := by
        rw [h.rekeyDuplicate, halive, Bool.not_eq_true _ |>.mp hdup]
        rfl
      have hidle : ¬ e.Waiting := hours e c hown hc
      rw [if_neg hdup, if_pos hdeletes]
      split_ifs with hsent
      · exact ⟨h.parent, h.alive, fun _ => hsent.symm, h.rekeyInprogress, h.rekeyDuplicate, h.followup,
          fun hwaits => absurd hwaits hidle⟩
      · exact ⟨h.parent, h.alive, fun _ => rfl, h.rekeyInprogress, h.rekeyDuplicate, h.followup,
          fun hwaits => absurd hwaits hidle⟩
  · have hdead : ¬ (w.alive && !w.rekeyDuplicate) = true := by
      rw [h.alive, beq_eq_false_iff_ne.mpr hold, Bool.false_and]
      exact Bool.false_ne_true
    rw [if_pos hold, if_neg hdead]
    exact h

/-- the new Child SA is in the kernel -/
theorem ChildPeer.Marks.install (h : e.Marks w) {id : Nat} {d : NewChild} (hd : w.pending id = some d)
    (hours : d.isInitiator = true) (me : Side) {c : PeerChild} (hc : c.state = .mature) :
    (ChildPeer.initiatorRekeyFinalize { e with own := some c } me c).1.Marks
      (childRekeyStep w (.install id)) := by
  have hstep : childRekeyStep w (.install id)
      = Ikev2.rekeyFinalize { w.setChild id fun c => { c with stage := .mature, addkePending := false } with
          installed := true } := by
    show w.install id = _
    unfold ChildRekey.install
    rw [hd]
    exact if_pos hours
  rw [hstep]
  have hmarks : ChildPeer.Marks { e with own := some c }
      { w.setChild id fun c => { c with stage := .mature, addkePending := false } with installed := true } := by
    refine ⟨h.parent, h.alive, h.deleteSent, h.rekeyInprogress, h.rekeyDuplicate,
      ChildRekey.followup_mature id h.followup, fun hwaits => ?_⟩
    exact absurd hwaits (ChildPeer.not_waiting rfl (by rw [hc]; decide))
  exact hmarks.rekeyFinalize rfl hc me

/-- CHILD_SA_NOT_FOUND -/
theorem ChildPeer.Marks.childAbort (h : e.Marks w) {id : Nat} {d : NewChild} (hd : w.pending id = some d)
    (hours : d.isInitiator = true) (c : PeerChild) :
    (e.childAbort c).Marks (childRekeyStep w (.abort id)) := by
  have hstep : childRekeyStep w (.abort id) = { w.setChild id fun c => { c with stage := .expired } with
      rekeyInprogress := w.rekeyInprogress && !w.alive } := by
    show w.childAbort id = _
    unfold ChildRekey.childAbort
    rw [hd]
    dsimp only
    rw [hours, Bool.true_and]
  rw [hstep]
  refine ⟨h.parent, h.alive, h.deleteSent, ?_, h.rekeyDuplicate,
    ChildRekey.followupPending_setChild h.followup id (fun _ hc => hc) fun _ => rfl, fun hwaits => ?_⟩
  · show (w.rekeyInprogress && !w.alive) = if e.old.state = .mature then false else e.rekeyInprogress
    rw [h.alive, h.rekeyInprogress]
    split_ifs with hold
    · rw [hold, Bool.and_eq_false_iff]
      exact .inr rfl
    · rw [beq_eq_false_iff_ne.mpr hold, Bool.not_false, Bool.and_true]
  · refine absurd hwaits (ChildPeer.not_waiting rfl ?_)
    show ChildState.expired ≠ .waitResponse
    decide

/-- our response: the new Child SA is complete, or it is given up -/
theorem ChildPeer.Marks.createchildInitiatorRecv (h : e.Marks w) (me : Side) (answer : RekeyAnswer) :
    ∃ evs : List ChildRekeyEvent,
      (e.createchildInitiatorRecv me answer).1.Marks (evs.foldl childRekeyStep w) := by
  unfold ChildPeer.createchildInitiatorRecv
  cases hown : e.own with
  | none => exact ⟨[], h⟩
  | some c =>
    dsimp only
    split_ifs with hwait
    · obtain ⟨id, d, -, hd, hours⟩ := h.waits ⟨c, hown, hwait⟩
      cases answer with
      | accepted nR => exact ⟨[.install id], h.install hd hours me rfl⟩
      | notFound => exact ⟨[.abort id], h.childAbort hd hours c⟩
    · exact ⟨[], h⟩

/-- the old Child SA is EXPIRED -/
theorem ChildPeer.Marks.close (h : e.Marks w) {e' : ChildPeer} (hold : e'.old.state = .expired)
    (hin : e'.rekeyInprogress = e.rekeyInprogress) (hdup : e'.rekeyDuplicate = e.rekeyDuplicate)
    (hwaits : e'.Waiting → e.Waiting) : e'.Marks (childRekeyStep w .close) := by
  refine ⟨h.parent, ?_, ?_, h.rekeyInprogress.trans hin.symm, h.rekeyDuplicate.trans hdup.symm, h.followup,
    fun hw => h.waits (hwaits hw)⟩
  · rw [hold]
    rfl
  · rw [hold]
    intro hstate
    cases hstate

/-- a DELETE of the peer -/
theorem ChildPeer.Marks.deleteRecv (h : e.Marks w) (me : Side) (t : RekeyTarget) :
    ∃ evs : List ChildRekeyEvent, (e.deleteRecv me t).1.Marks (evs.foldl childRekeyStep w) := by
  unfold ChildPeer.deleteRecv
  cases t with
  | old =>
    dsimp only
    split_ifs with hanswered
    · exact ⟨[], h⟩
    · unfold PeerChild.processDelete
      split_ifs with hmature hsent
      · refine ⟨[], h.parent, h.alive.trans ?_, fun _ => h.deleteSent hmature, h.rekeyInprogress,
          h.rekeyDuplicate, h.followup, h.waits⟩
        rw [hmature]
      · exact ⟨[.close], h.close rfl rfl rfl id⟩
      · exact ⟨[], h.parent, h.alive, h.deleteSent, h.rekeyInprogress, h.rekeyDuplicate, h.followup, h.waits⟩
  | own =>
    refine ⟨[], ?_⟩
    cases e.theirs with
    | none => exact h
    | some c =>
      dsimp only
      split_ifs
      · exact h
      · exact ⟨h.parent, h.alive, h.deleteSent, h.rekeyInprogress, h.rekeyDuplicate, h.followup, h.waits⟩

theorem ChildPeer.not_waiting_expire (h : ∀ c ∈ e.own, c.state = .expired) : ¬ e.Waiting := by
  rintro ⟨c, hc, hstate⟩
  rw [h c hc] at hstate
  cases hstate

/-- the response to our DELETE -/
theorem ChildPeer.Marks.deleteResponse (h : e.Marks w) (t : RekeyTarget) (found : Bool) :
    ∃ evs : List ChildRekeyEvent, (e.deleteResponse t found).Marks (evs.foldl childRekeyStep w) := by
  have hexpired : ∀ c ∈ e.own.map PeerChild.expire, c.state = .expired := by
    intro c hc
    obtain ⟨d, -, rfl⟩ := Option.mem_map.mp hc
    rfl
  unfold ChildPeer.deleteResponse
  split_ifs with hdeleting hfound
  · cases t with
    | old => exact ⟨[.close], h.close rfl rfl rfl id⟩
    | own =>
      refine ⟨[], h.parent, h.alive, h.deleteSent, h.rekeyInprogress, h.rekeyDuplicate, h.followup,
        fun hwaits => ?_⟩
      exact absurd hwaits (ChildPeer.not_waiting_expire hexpired)
  · refine ⟨[.close], h.close rfl rfl rfl fun hwaits => ?_⟩
    exact absurd hwaits (ChildPeer.not_waiting_expire hexpired)
  · exact ⟨[], h⟩

theorem ChildPeer.Marks.recv (h : e.Marks w) (me : Side) (n : Bytes) (m : CollisionMsg) :
    ∃ evs : List ChildRekeyEvent, (e.recv me n m).1.Marks (evs.foldl childRekeyStep w) := by
  cases m with
  | rekeyRequest x nI => exact h.createchildResponderRecv me nI n
  | rekeyResponse x answer => exact h.createchildInitiatorRecv me answer
  | deleteRequest x t => exact h.deleteRecv me t
  | deleteResponse x t found => exact h.deleteResponse t found

/-- some run of `ChildRekey` from `start` has come to `e` -/
def ChildPeer.Reached (e : ChildPeer) (start : ChildRekey) : Prop :=
  ∃ evs : List ChildRekeyEvent, e.Marks (evs.foldl childRekeyStep start)

theorem ChildPeer.Reached.next {start : ChildRekey} {e' : ChildPeer} (h : e.Reached start)
    (hnext : ∀ w, e.Marks w → ∃ evs : List ChildRekeyEvent, e'.Marks (evs.foldl childRekeyStep w)) :
    e'.Reached start := by
  obtain ⟨evs, hmarks⟩ := h
  obtain ⟨more, hmore⟩ := hnext _ hmarks
  refine ⟨evs ++ more, ?_⟩
  rw [List.foldl_append]
  exact hmore

theorem collisionStep_reached {v : Collision} {start : ChildRekey} (h : ∀ x, (v.ends x).Reached start)
    (ev : CollisionEvent) (x : Side) : ((collisionStep v ev).ends x).Reached start := by
  have hput : ∀ (y : Side) (out : ChildPeer × List CollisionMsg), out.1.Reached start →
      ((v.put y out).ends x).Reached start := by
    intro y out hout
    rcases y.eq_or_other x with rfl | rfl
    · rw [Sys.put_self]
      exact hout
    · rw [Sys.put_other]
      exact h _
  cases ev with
  | rekey y n => exact hput y _ ((h y).next fun w hw => hw.rekeyChildsa y n)
  | deliver m n =>
    unfold collisionStep
    dsimp only
    split_ifs
    · exact hput m.to _ ((h m.to).next fun w hw => hw.recv m.to n m)
    · exact h x

theorem collisionStart_reached (ranges : List PoolRange) (calls : List PoolCall)
    (srclist dstlist : List IpAddr) (others : Nat) :
    ChildPeer.start.Reached (ChildRekey.start ranges calls srclist dstlist others) := by
  refine ⟨[], rfl, rfl, fun _ => rfl, rfl, rfl, rfl, ?_⟩
  rintro ⟨c, hc, -⟩
  cases hc

/-- every run of the two is a run of `ChildRekey` at each end -/
theorem collision_reached (ranges : List PoolRange) (calls : List PoolCall) (srclist dstlist : List IpAddr)
    (others : Nat) (events : List CollisionEvent) :
    ∀ v ∈ Run.states collisionStep Collision.start events, ∀ x,
      (v.ends x).Reached (ChildRekey.start ranges calls srclist dstlist others) :=
  Run.states_inv_all (fun v ev hv x => collisionStep_reached hv ev x) events
    fun _ => collisionStart_reached ranges calls srclist dstlist others

end

/-! ## the old IKE SA -/

def ChildSa.ike (c : ChildSa) : IkeChild := ⟨c.childId, c.state⟩

/-- the new IKE SA has the nonces and the children of `c` -/
structure PeerIke.Shows (c : PeerIke) (sa : NewSa) : Prop where
  nI : sa.nI = some c.nI
  nR : c.state ≠ .larval → sa.nR = some c.nR
  children : sa.children.map ChildSa.ike = c.children

/-- the old IKE SA has the marks and the children of `e`, and `own` and `theirs` are its new IKE SAs -/
structure IkePeer.Shows (e : IkePeer) (w : RekeySa) (own theirs : Serial) : Prop where
  ours : own.ours = true
  peers : theirs.ours = false
  live : w.disposed = false
  state : w.state = .established
  old : e.old.state = .established
  rekeyInprogress : w.rekeyInprogress = e.rekeyInprogress
  rekeyDuplicate : w.rekeyDuplicate = e.rekeyDuplicate
  duplicate : e.rekeyDuplicate = true →
    e.answered = true ∧ e.theirs.isSome ∧ w.rekeyDuplicateSerial = some theirs
  parked : w.addkeInit = none
  children : w.children.map ChildSa.ike = e.old.children
  own : ∀ c ∈ e.own, ∃ sa, w.sas own = some sa ∧ c.Shows sa ∧
    (c.state = .larval → w.newSa = some own ∧ ∃ sent, w.request = some sent)
  theirs : ∀ d ∈ e.theirs, d.state = .established ∧
    ∃ sa, w.sas theirs = some sa ∧ d.Shows sa ∧ sa.listed = true

section
variable {e : IkePeer} {w : RekeySa} {own theirs : Serial}

theorem ChildSa.ike_movable (c : ChildSa) : c.ike.movable = c.state.adopts := by
  unfold IkeChild.movable ChildSa.ike ChildState.adopts
  cases c.state <;> rfl

/-- what `ikev2_child_adopt` moves -/
theorem map_ike_adopts (cs : List ChildSa) :
    (cs.filter fun c => c.state.adopts).map ChildSa.ike = (cs.map ChildSa.ike).filter IkeChild.movable := by
  rw [List.filter_map]
  congr 2
  funext c
  exact (c.ike_movable).symm

/-- and what it leaves -/
theorem map_ike_stays (cs : List ChildSa) : (cs.filter fun c => !c.state.adopts).map ChildSa.ike
    = (cs.map ChildSa.ike).filter fun c => !c.movable := by
  rw [List.filter_map]
  congr 2
  funext c
  exact congrArg (!·) (c.ike_movable).symm

theorem IkePeer.Shows.apart (h : e.Shows w own theirs) : theirs ≠ own := by
  rintro rfl
  exact Bool.false_ne_true (h.peers.symm.trans h.ours)

theorem IkePeer.Shows.leave (h : e.Shows w own theirs) :
    (w.children.filter fun c => !c.state.adopts).map ChildSa.ike = e.old.leave.children := by
  rw [map_ike_stays, h.children]
  rfl

theorem RekeySa.done_head {job : RekeyJob} {js : List RekeyJob} (h : w.jobs = job :: js)
    (callback : RekeySa → RekeySa) : w.done job callback = callback { w with jobs := js } := by
  unfold RekeySa.done
  rw [h, if_pos List.mem_cons_self, List.erase_cons_head]

/-- the worker has made the key pair of our request -/
theorem rekeyStep_initDhDone {s : Serial} {sa : NewSa} {js : List RekeyJob} (hlive : w.disposed = false)
    (hstate : w.state = .established) (hjobs : w.jobs = .initGen s :: js) (hslot : w.newSa = some s)
    (hsa : w.sas s = some sa) (n : Bytes) :
    rekeyStep w (.initDhDone s (some []) false (some n))
      = { ({ w with jobs := js }).setSa s fun sa => { sa with nI := some n, dhpriv := some [] } with
          request := some ⟨s, sa.spiI, n, []⟩ } := by
  unfold rekeyStep
  rw [if_neg (by rw [hlive]; exact Bool.false_ne_true)]
  refine (RekeySa.done_head hjobs _).trans ?_
  unfold initDhDone
  rw [if_neg (not_not.mpr hslot), if_neg (by rw [hstate]; decide)]
  dsimp only
  rw [hsa]
  rfl

/-- nothing fails when a request is answered -/
def TailEnv.smooth : TailEnv := ⟨true, none, true, true, true, true, true⟩

/-- the worker has the secret of a request of the peer -/
theorem rekeyStep_responderDhDone {s : Serial} {sa : NewSa} {js : List RekeyJob}
    (hlive : w.disposed = false) (hstate : w.state = .established) (hjobs : w.jobs = .respGencmp s :: js)
    (hsa : w.sas s = some sa) (hidle : sa.state = .idling) (haddke : sa.addke = []) :
    rekeyStep w (.responderDhDone s true .smooth)
      = { ({ w with jobs := js }).responderFinish s s with replaced := true } := by
  unfold rekeyStep
  rw [if_neg (by rw [hlive]; exact Bool.false_ne_true)]
  refine (RekeySa.done_head hjobs _).trans ?_
  unfold responderDhDone
  dsimp only
  rw [hsa]
  dsimp only
  rw [if_neg (by rw [hstate, hidle]; decide), haddke]
  rfl

/-- the worker has the secret of our response -/
theorem rekeyStep_initRecvDhDone {ctx : InitRecvCtx} {sa : NewSa} {js : List RekeyJob}
    (hlive : w.disposed = false) (hstate : w.state = .established) (hjobs : w.jobs = .initCompute ctx :: js)
    (hslot : w.newSa = some ctx.newSa) (hparked : w.addkeInit = none) (hplain : ctx.deferred = false)
    (hsa : w.sas ctx.newSa = some sa) :
    rekeyStep w (.initRecvDhDone ctx true true)
      = { initRekeyDone ((({ w with jobs := js }).setSlot ctx.request none).establish ctx.request ctx.newSa)
            ctx.newSa sa with replaced := true } := by
  unfold rekeyStep
  rw [if_neg (by rw [hlive]; exact Bool.false_ne_true)]
  refine (RekeySa.done_head hjobs _).trans ?_
  unfold initRecvDhDone
  rw [if_neg (not_not.mpr hslot), if_neg (by rw [hstate]; decide)]
  dsimp only
  rw [hparked]
  dsimp only
  unfold initRecvTail initRecvKeys
  rw [hplain, if_neg Bool.false_ne_true, if_neg (by decide)]
  dsimp only
  rw [hsa]

/-- `ikev2_rekey_ikesa_init_send` has asked for a key pair -/
def RekeySa.asked (w : RekeySa) : RekeySa :=
  { ({ w with rekeyInprogress := true } : RekeySa).stub [] with
    jobs := .initGen ⟨true, w.nextSerial⟩ :: w.jobs }

/-- `ikev2_rekey_ikesa_responder` has asked for the secret -/
def RekeySa.taken (w : RekeySa) (nI nR : Bytes) : RekeySa :=
  { w.answer { NewSa.allocate [] with listed := true, nI := some nI, nR := some nR } with
    jobs := .respGencmp ⟨false, w.nextSerial⟩ :: w.jobs }

/-- `ikev2_rekey_ikesa_init_recv` has asked for the secret -/
def RekeySa.received (w : RekeySa) (sent : Sent) (s : Serial) (nR : Bytes) : RekeySa :=
  { w.setSa s fun sa => { sa with nR := some nR, addke := [] } with
    request := none, applied := (sent, (w.sas s).map (s, ·)) :: w.applied
    jobs := .initCompute (.fresh sent s []) :: w.jobs }

theorem RekeySa.setSa_sas_self {s : Serial} {sa : NewSa} (h : w.sas s = some sa) (f : NewSa → NewSa) :
    (w.setSa s f).sas s = some (f sa) := by
  show (if s = s then (w.sas s).map f else w.sas s) = _
  rw [if_pos rfl, h, Option.map_some]

theorem RekeySa.setSa_sas_other {s t : Serial} (h : t ≠ s) (f : NewSa → NewSa) :
    (w.setSa s f).sas t = w.sas t := if_neg h

/-- `childAdopt` for the new IKE SA `s` -/
theorem RekeySa.childAdopt_sas {s : Serial} {sa : NewSa} (h : w.sas s = some sa) :
    (w.childAdopt s).sas s
      = some { sa with children := sa.children ++ w.children.filter fun c => c.state.adopts } :=
  RekeySa.setSa_sas_self h _

/-- the new IKE SA that lives on gets the children -/
theorem PeerIke.Shows.adopt {c old : PeerIke} {sa : NewSa} (h : c.Shows sa)
    (hold : w.children.map ChildSa.ike = old.children) :
    (c.adopt old).Shows { sa with children := sa.children ++ w.children.filter fun c => c.state.adopts } := by
  refine ⟨h.nI, h.nR, ?_⟩
  show List.map _ _ = c.children ++ old.children.filter IkeChild.movable
  rw [List.map_append, h.children, map_ike_adopts, hold]

/-! ### what changes neither end -/

/-- a new IKE SA changes in what is not shown -/
theorem IkePeer.Shows.setSa (h : e.Shows w own theirs) (s : Serial) {f : NewSa → NewSa}
    (hf : ∀ c sa, PeerIke.Shows c sa → c.Shows (f sa)) (hlisted : ∀ sa, sa.listed = true → (f sa).listed = true) :
    e.Shows (w.setSa s f) own theirs := by
  refine ⟨h.ours, h.peers, h.live, h.state, h.old, h.rekeyInprogress, h.rekeyDuplicate, h.duplicate, h.parked,
    h.children, ?_, ?_⟩
  · intro c hc
    obtain ⟨sa, hsa, hshows, hlarval⟩ := h.own c hc
    by_cases hs : own = s
    · subst hs
      exact ⟨f sa, RekeySa.setSa_sas_self hsa f, hf c sa hshows, hlarval⟩
    · exact ⟨sa, (RekeySa.setSa_sas_other hs f).trans hsa, hshows, hlarval⟩
  · intro d hd
    obtain ⟨hd, sa, hsa, hshows, hin⟩ := h.theirs d hd
    by_cases hs : theirs = s
    · subst hs
      exact ⟨hd, f sa, RekeySa.setSa_sas_self hsa f, hf d sa hshows, hlisted sa hin⟩
    · exact ⟨hd, sa, (RekeySa.setSa_sas_other hs f).trans hsa, hshows, hin⟩

theorem IkePeer.Shows.establish (h : e.Shows w own theirs) (x s : Serial) :
    e.Shows (w.establish x s) own theirs := by
  have hset : e.Shows (w.setSa s fun sa => { sa with listed := true, state := .established }) own theirs :=
    h.setSa s (fun c sa hc => ⟨hc.nI, hc.nR, hc.children⟩) fun _ _ => rfl
  exact ⟨hset.ours, hset.peers, hset.live, hset.state, hset.old, hset.rekeyInprogress, hset.rekeyDuplicate,
    hset.duplicate, hset.parked, hset.children, hset.own, hset.theirs⟩

theorem IkePeer.Shows.replaced (h : e.Shows w own theirs) : e.Shows { w with replaced := true } own theirs :=
  ⟨h.ours, h.peers, h.live, h.state, h.old, h.rekeyInprogress, h.rekeyDuplicate, h.duplicate, h.parked,
    h.children, h.own, h.theirs⟩

/-- the DELETE of the old IKE SA is sent -/
theorem IkePeer.Shows.delete (h : e.Shows w own theirs) :
    IkePeer.Shows { e with old := e.old.delete } w own theirs :=
  ⟨h.ours, h.peers, h.live, h.state, h.old, h.rekeyInprogress, h.rekeyDuplicate, h.duplicate, h.parked,
    h.children, h.own, h.theirs⟩

/-! ### the children move -/

theorem IkePeer.Shows.adoptOwn (h : e.Shows w own theirs) {c : PeerIke} (hown : e.own = some c)
    (hstate : c.state = .established) :
    IkePeer.Shows { e with old := e.old.leave, own := some (c.adopt e.old) } (w.childAdopt own) own theirs := by
  refine ⟨h.ours, h.peers, h.live, h.state, h.old, h.rekeyInprogress, h.rekeyDuplicate, h.duplicate, h.parked,
    h.leave, ?_, ?_⟩
  · intro c' hc'
    cases hc'
    obtain ⟨sa, hsa, hshows, -⟩ := h.own c hown
    refine ⟨_, RekeySa.childAdopt_sas hsa, hshows.adopt h.children, fun hlarval => ?_⟩
    exact absurd (hstate.symm.trans hlarval) (by decide)
  · intro d hd
    obtain ⟨hd, sa, hsa, hshows, hlisted⟩ := h.theirs d hd
    exact ⟨hd, sa, (RekeySa.setSa_sas_other h.apart _).trans hsa, hshows, hlisted⟩

theorem IkePeer.Shows.adoptTheirs (h : e.Shows w own theirs) {d : PeerIke} (htheirs : e.theirs = some d) :
    IkePeer.Shows { e with old := e.old.leave, theirs := some (d.adopt e.old) } (w.childAdopt theirs) own
      theirs := by
  refine ⟨h.ours, h.peers, h.live, h.state, h.old, h.rekeyInprogress, h.rekeyDuplicate,
    fun hdup => ⟨(h.duplicate hdup).1, rfl, (h.duplicate hdup).2.2⟩, h.parked, h.leave, ?_, ?_⟩
  · intro c hc
    obtain ⟨sa, hsa, hshows, hlarval⟩ := h.own c hc
    exact ⟨sa, (RekeySa.setSa_sas_other h.apart.symm _).trans hsa, hshows, hlarval⟩
  · intro d' hd'
    cases hd'
    obtain ⟨hd, sa, hsa, hshows, hlisted⟩ := h.theirs d htheirs
    exact ⟨hd, _, RekeySa.childAdopt_sas hsa, hshows.adopt h.children, hlisted⟩

/-! ### the rekey we start -/

/-- our rekey, with the key pair that its request carries -/
theorem IkePeer.Shows.rekeyIkesaCallback (h : e.Shows w own theirs) (me : Side) (n : Bytes) :
    ∃ (evs : List RekeyEvent) (own' : Serial),
      (e.rekeyIkesaCallback me n).1.Shows (evs.foldl rekeyStep w) own' theirs := by
  unfold IkePeer.rekeyIkesaCallback
  split_ifs with hif
  · obtain ⟨-, hidle, -⟩ := hif
    have hstart : rekeyStep w (.start (.submitted [])) = w.asked := by
      unfold rekeyStep callbackContinue
      rw [if_neg (by rw [h.live]; exact Bool.false_ne_true)]
      exact if_neg (by rw [h.rekeyInprogress, hidle]; exact Bool.false_ne_true)
    have hstub : w.asked.sas ⟨true, w.nextSerial⟩ = some (NewSa.allocate []) := if_pos rfl
    have hother : theirs ≠ ⟨true, w.nextSerial⟩ := by
      rintro rfl
      exact Bool.noConfusion h.peers
    refine ⟨[.start (.submitted []), .initDhDone ⟨true, w.nextSerial⟩ (some []) false (some n)],
      ⟨true, w.nextSerial⟩, ?_⟩
    rw [List.foldl_cons, hstart, List.foldl_cons, List.foldl_nil,
      rekeyStep_initDhDone (w := w.asked) h.live h.state rfl rfl hstub n]
    refine ⟨rfl, h.peers, h.live, h.state, h.old, rfl, h.rekeyDuplicate, h.duplicate, h.parked, h.children,
      ?_, ?_⟩
    · intro c hc
      cases hc
      exact ⟨_, RekeySa.setSa_sas_self (w := { w.asked with jobs := w.jobs }) hstub _,
        ⟨rfl, fun hne => absurd rfl hne, rfl⟩, fun _ => ⟨rfl, _, rfl⟩⟩
    · intro d hd
      obtain ⟨hstate, sa, hsa, hshows, hlisted⟩ := h.theirs d hd
      refine ⟨hstate, sa, ?_, hshows, hlisted⟩
      have hkeeps : w.asked.sas theirs = w.sas theirs := if_neg hother
      exact (RekeySa.setSa_sas_other hother _).trans (hkeeps.trans hsa)
  · exact ⟨[], own, h⟩

/-- the own IKE SA lives on -/
theorem IkePeer.Shows.keepOwn (h : e.Shows w own theirs) {c : PeerIke} (hown : e.own = some c)
    (hstate : c.state = .established) (me : Side) : (e.keepOwn me c).1.Shows (w.childAdopt own) own theirs :=
  (h.adoptOwn hown hstate).delete

/-- the IKE SA of the peer does -/
theorem IkePeer.Shows.loseOwn (h : e.Shows w own theirs) {c d : PeerIke} (hown : e.own = some c)
    (htheirs : e.theirs = some d) (me : Side) :
    (e.loseOwn me c d).1.Shows (w.childAdopt theirs) own theirs := by
  have hdeleted : IkePeer.Shows { e with own := some c.delete } w own theirs := by
    refine ⟨h.ours, h.peers, h.live, h.state, h.old, h.rekeyInprogress, h.rekeyDuplicate, h.duplicate, h.parked,
      h.children, ?_, h.theirs⟩
    intro c' hc'
    cases hc'
    obtain ⟨sa, hsa, hshows, hlarval⟩ := h.own c hown
    exact ⟨sa, hsa, ⟨hshows.nI, hshows.nR, hshows.children⟩, hlarval⟩
  exact (hdeleted.adoptTheirs htheirs).delete

/-- the end of `ikev2_rekey_ikesa_init_recv_tail` -/
theorem IkePeer.Shows.initRecvTail (h : e.Shows w own theirs) {c : PeerIke} (hown : e.own = some c)
    (hstate : c.state = .established) {sa : NewSa} (hsa : c.Shows sa) (me : Side) (listed : Bool) :
    (e.initRecvTail me c listed).1.Shows (initRekeyDone w own sa) own theirs := by
  have hnR := hsa.nR (by rw [hstate]; decide)
  unfold IkePeer.initRecvTail initRekeyDone
  rw [h.rekeyDuplicate]
  by_cases hdup : e.rekeyDuplicate = true
  · obtain ⟨-, hsome, hserial⟩ := h.duplicate hdup
    obtain ⟨d, hd⟩ := Option.isSome_iff_exists.mp hsome
    obtain ⟨hlive, dup, hdupsa, hshows, hlisted⟩ := h.theirs d hd
    have hfound : w.listedSa theirs = some dup := by
      unfold RekeySa.listedSa
      rw [hdupsa, Option.filter_some, if_pos hlisted]
    have hdR := hshows.nR (by rw [hlive]; decide)
    rw [if_pos hdup, hd, hdup, hserial, Option.bind_some, hfound]
    dsimp only
    have halive : ¬ (d.state = .dead ∧ listed = false) := by
      rintro ⟨hdead, -⟩
      rw [hlive] at hdead
      cases hdead
    rw [if_neg halive, hsa.nI, hnR, hshows.nI, hdR]
    simp only [Option.getD_some]
    split_ifs
    · exact h.loseOwn hown hd me
    · exact h.keepOwn hown hstate me
  · rw [if_neg hdup, Bool.not_eq_true _ |>.mp hdup]
    exact h.keepOwn hown hstate me

/-- the response is applied to our new IKE SA -/
theorem IkePeer.Shows.received (h : e.Shows w own theirs) {c : PeerIke} (hown : e.own = some c) (sent : Sent)
    (nR : Bytes) : IkePeer.Shows { e with own := some { c with nR := nR, state := .established } }
      { w.received sent own nR with jobs := w.jobs } own theirs := by
  refine ⟨h.ours, h.peers, h.live, h.state, h.old, h.rekeyInprogress, h.rekeyDuplicate, h.duplicate, h.parked,
    h.children, ?_, ?_⟩
  · intro c' hc'
    cases hc'
    obtain ⟨sa, hsa, hshows, -⟩ := h.own c hown
    refine ⟨_, RekeySa.setSa_sas_self hsa _, ⟨hshows.nI, fun _ => rfl, hshows.children⟩, fun hlarval => ?_⟩
    cases hlarval
  · intro d hd
    obtain ⟨hd, dup, hdup, hdshows, hlisted⟩ := h.theirs d hd
    exact ⟨hd, dup, (RekeySa.setSa_sas_other h.apart _).trans hdup, hdshows, hlisted⟩

/-- its slot is given up -/
theorem IkePeer.Shows.setSlot (h : e.Shows w own theirs) {c : PeerIke} (hown : e.own = some c)
    (hstate : c.state = .established) (x : Serial) : e.Shows (w.setSlot x none) own theirs := by
  refine ⟨h.ours, h.peers, h.live, h.state, h.old, h.rekeyInprogress, h.rekeyDuplicate, h.duplicate, h.parked,
    h.children, ?_, h.theirs⟩
  intro c' hc'
  obtain ⟨sa, hsa, hshows, -⟩ := h.own c' hc'
  rw [hown] at hc'
  cases hc'
  exact ⟨sa, hsa, hshows, fun hlarval => absurd (hstate.symm.trans hlarval) (by decide)⟩

theorem IkePeer.initRecvTail_own (e : IkePeer) (own : Option PeerIke) (me : Side) (c : PeerIke) (listed : Bool) :
    IkePeer.initRecvTail { e with own := own } me c listed = e.initRecvTail me c listed := rfl

/-- our response, with the secret that it gives -/
theorem IkePeer.Shows.rekeyIkesaInitRecv (h : e.Shows w own theirs) (me : Side) (nR : Bytes) (listed : Bool) :
    ∃ evs : List RekeyEvent, (e.rekeyIkesaInitRecv me nR listed).1.Shows (evs.foldl rekeyStep w) own theirs := by
  unfold IkePeer.rekeyIkesaInitRecv
  cases hown : e.own with
  | none => exact ⟨[], h⟩
  | some c =>
    dsimp only
    split_ifs with hlarval
    · obtain ⟨sa, hsa, hshows, hwaits⟩ := h.own c hown
      obtain ⟨hslot, sent, hsent⟩ := hwaits hlarval.1
      have hresponse : rekeyStep w (.response (.submitted nR [])) = w.received sent own nR := by
        unfold rekeyStep RekeySa.response
        rw [if_neg (by rw [h.live]; exact Bool.false_ne_true)]
        dsimp only
        rw [hsent]
        dsimp only
        unfold initRecv RekeySa.apply
        rw [hslot]
        rfl
      have hgot : (w.received sent own nR).sas own = some { sa with nR := some nR, addke := [] } :=
        RekeySa.setSa_sas_self hsa _
      have hnew : PeerIke.Shows { c with nR := nR, state := .established }
          { sa with nR := some nR, addke := [] } := ⟨hshows.nI, fun _ => rfl, hshows.children⟩
      have hmade := ((h.received hown sent nR).setSlot rfl rfl sent.stub).establish sent.stub own
      refine ⟨[.response (.submitted nR []), .initRecvDhDone (.fresh sent own []) true true], ?_⟩
      rw [List.foldl_cons, hresponse, List.foldl_cons, List.foldl_nil,
        rekeyStep_initRecvDhDone (w := w.received sent own nR) h.live h.state rfl hslot h.parked rfl hgot]
      have htail := (hmade.initRecvTail rfl rfl hnew me listed).replaced
      rw [IkePeer.initRecvTail_own] at htail
      exact htail
    · exact ⟨[], h⟩

/-! ### the rekey of the peer -/

/-- the request is answered, and the children are not moved yet -/
theorem IkePeer.Shows.taken (h : e.Shows w own theirs) (hanswered : ¬ e.answered = true) (nI nR : Bytes) :
    IkePeer.Shows
      { e with
        rekeyDuplicate := e.rekeyInprogress, rekeyInprogress := true
        theirs := some ⟨nI, nR, .established, [], false⟩, answered := true }
      { w.taken nI nR with jobs := w.jobs } own ⟨false, w.nextSerial⟩ := by
  have hnone : w.rekeyDuplicate = false := by
    rw [h.rekeyDuplicate, ← Bool.not_eq_true]
    exact fun hdup => hanswered (h.duplicate hdup).1
  have hother : own ≠ ⟨false, w.nextSerial⟩ := by
    rintro rfl
    exact Bool.noConfusion h.ours
  refine ⟨h.ours, rfl, h.live, h.state, h.old, rfl, ?_, fun hin => ⟨rfl, rfl, ?_⟩, h.parked, h.children, ?_, ?_⟩
  · show (w.rekeyDuplicate || w.rekeyInprogress) = e.rekeyInprogress
    rw [hnone, Bool.false_or, h.rekeyInprogress]
  · show (if w.rekeyInprogress then _ else _) = _
    rw [h.rekeyInprogress, if_pos hin]
  · intro c hc
    obtain ⟨sa, hsa, hshows, hlarval⟩ := h.own c hc
    have hkeeps : (w.taken nI nR).sas own = w.sas own := if_neg hother
    exact ⟨sa, hkeeps.trans hsa, hshows, hlarval⟩
  · intro d hd
    cases hd
    exact ⟨rfl, _, if_pos rfl, ⟨rfl, fun _ => rfl, rfl⟩, rfl⟩

/-- the rekey of the peer, with the secret that its response needs -/
theorem IkePeer.Shows.rekeyIkesaResponder (h : e.Shows w own theirs) (me : Side) (nI nR : Bytes) :
    ∃ (evs : List RekeyEvent) (theirs' : Serial),
      (e.rekeyIkesaResponder me nI nR).1.Shows (evs.foldl rekeyStep w) own theirs' := by
  by_cases hanswered : e.answered = true
  · refine ⟨[], theirs, ?_⟩
    unfold IkePeer.rekeyIkesaResponder
    rw [hanswered, Bool.true_or, if_pos rfl]
    exact h
  · have hnone : e.rekeyDuplicate = false := by
      rw [← Bool.not_eq_true]
      exact fun hdup => hanswered (h.duplicate hdup).1
    have hrequest : rekeyStep w (.request (.submitted [] nI nR [])) = w.taken nI nR := by
      unfold rekeyStep rekeyResponder
      rw [if_neg (by rw [h.live]; exact Bool.false_ne_true)]
      exact if_pos (.inl h.state)
    have hnew : (w.taken nI nR).sas ⟨false, w.nextSerial⟩
        = some { NewSa.allocate [] with listed := true, nI := some nI, nR := some nR } := if_pos rfl
    have hfirst : ¬ (e.answered || e.old.state == .dead) = true := by
      rw [h.old, Bool.not_eq_true _ |>.mp hanswered]
      decide
    have htaken := h.taken hanswered nI nR
    refine ⟨[.request (.submitted [] nI nR []), .responderDhDone ⟨false, w.nextSerial⟩ true .smooth],
      ⟨false, w.nextSerial⟩, ?_⟩
    rw [List.foldl_cons, hrequest, List.foldl_cons, List.foldl_nil,
      rekeyStep_responderDhDone (w := w.taken nI nR) h.live h.state rfl hnew rfl rfl]
    unfold IkePeer.rekeyIkesaResponder RekeySa.responderFinish
    rw [if_neg hfirst]
    have hmark : (w.taken nI nR).rekeyDuplicate = e.rekeyInprogress := htaken.rekeyDuplicate
    cases hin : e.rekeyInprogress with
    | true =>
      rw [hin] at htaken hmark
      rw [Bool.or_true, if_pos rfl, if_pos hmark]
      exact (htaken.establish _ _).replaced
    | false =>
      rw [hin] at htaken hmark
      rw [hnone, Bool.or_false, if_neg Bool.false_ne_true, if_neg (by rw [hmark]; exact Bool.false_ne_true)]
      exact ((htaken.adoptTheirs rfl).establish _ _).replaced

/-! ### every run -/

/-- no DELETE arrives -/
def IkeCollisionEvent.rekeys : IkeCollisionEvent → Bool
  | .rekey _ _ => true
  | .deliver (.rekeyRequest _ _) _ _ => true
  | .deliver (.rekeyResponse _ _) _ _ => true
  | .deliver _ _ _ => false

/-- some run of `RekeySa` from the children `cs` has come to `e` -/
def IkePeer.Reached (e : IkePeer) (cs : List ChildSa) : Prop :=
  ∃ (evs : List RekeyEvent) (own theirs : Serial), e.Shows (evs.foldl rekeyStep (RekeySa.start cs)) own theirs

theorem IkePeer.reached_append {evs : List RekeyEvent} {cs : List ChildSa}
    (h : ∃ (more : List RekeyEvent) (own theirs : Serial),
      e.Shows (more.foldl rekeyStep (evs.foldl rekeyStep (RekeySa.start cs))) own theirs) : e.Reached cs := by
  obtain ⟨more, own, theirs, h⟩ := h
  refine ⟨evs ++ more, own, theirs, ?_⟩
  rw [List.foldl_append]
  exact h

theorem IkePeer.Reached.recv {cs : List ChildSa} (h : e.Reached cs) (me : Side) {m : IkeMsg} (n : Bytes)
    (listed : Bool) (hm : (IkeCollisionEvent.deliver m n listed).rekeys = true) :
    (e.recv me n listed m).1.Reached cs := by
  obtain ⟨evs, own, theirs, h⟩ := h
  cases m with
  | rekeyRequest x nI =>
    obtain ⟨more, theirs', hnext⟩ := h.rekeyIkesaResponder me nI n
    exact IkePeer.reached_append ⟨more, own, theirs', hnext⟩
  | rekeyResponse x nR =>
    obtain ⟨more, hnext⟩ := h.rekeyIkesaInitRecv me nR listed
    exact IkePeer.reached_append ⟨more, own, theirs, hnext⟩
  | deleteRequest x t => cases hm
  | deleteResponse x t => cases hm

theorem IkePeer.Reached.callback {cs : List ChildSa} (h : e.Reached cs) (me : Side) (n : Bytes) :
    (e.rekeyIkesaCallback me n).1.Reached cs := by
  obtain ⟨evs, own, theirs, h⟩ := h
  obtain ⟨more, own', hnext⟩ := h.rekeyIkesaCallback me n
  exact IkePeer.reached_append ⟨more, own', theirs, hnext⟩

theorem ikeCollisionStep_reached {v : IkeCollision} {kids : Side → List ChildSa}
    (h : ∀ x, (v.ends x).Reached (kids x)) {ev : IkeCollisionEvent} (hev : ev.rekeys = true) (x : Side) :
    ((ikeCollisionStep v ev).ends x).Reached (kids x) := by
  have hput : ∀ (y : Side) (out : IkePeer × List IkeMsg), out.1.Reached (kids y) →
      ((v.put y out).ends x).Reached (kids x) := by
    intro y out hout
    rcases y.eq_or_other x with rfl | rfl
    · rw [Sys.put_self]
      exact hout
    · rw [Sys.put_other]
      exact h _
  cases ev with
  | rekey y n => exact hput y _ ((h y).callback y n)
  | deliver m n listed =>
    unfold ikeCollisionStep
    dsimp only
    split_ifs
    · exact hput m.to _ ((h m.to).recv m.to n listed hev)
    · exact h x

theorem ikeCollisionStart_reached (kids : Side → List ChildSa) (x : Side) :
    ((IkeCollision.start fun y => (kids y).map ChildSa.ike).ends x).Reached (kids x) := by
  refine ⟨[], ⟨true, 0⟩, ⟨false, 0⟩, rfl, rfl, rfl, rfl, rfl, rfl, rfl, fun hdup => ?_, rfl, rfl,
    fun c hc => ?_, fun d hd => ?_⟩
  · cases hdup
  · cases hc
  · cases hd

/-- until a DELETE arrives, every run of the two is a run of `RekeySa` at each end -/
theorem ike_collision_reached (kids : Side → List ChildSa) (events : List IkeCollisionEvent)
    (hrekeys : Run.Meets ikeCollisionStep (fun _ ev => ev.rekeys = true)
      (IkeCollision.start fun y => (kids y).map ChildSa.ike) events) :
    ∀ v ∈ Run.states ikeCollisionStep (IkeCollision.start fun y => (kids y).map ChildSa.ike) events,
      ∀ x, (v.ends x).Reached (kids x) :=
  Run.states_inv (fun v ev hv hev x => ikeCollisionStep_reached hv hev x) events _
    (ikeCollisionStart_reached kids) hrekeys

end

end Ikev2
