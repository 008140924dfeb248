import Racoon2.Lib.Run
import Racoon2.Xfrm.Requests

/-!
# Completion of requests to the kernel

A run is any interleaving of requests, replies, events and losses. `World` keeps, beside the table, the
requests that were accepted, the callbacks, and the requests that are settled: the last message of the
reply has come, the wait for it timed out, or it is lost.

* `Possible`   what the kernel can send;
* `Meets`      a request is completed once at most, by its own reply or echo, with its own callback,
               and its slot is free when it is settled;
* `Ok`         a sequence number names one request only, and no loss is met by `xfrm_sync`.
-/

set_option linter.unusedVariables false

namespace Xfrm
open Bytes

/-! ## runs -/

/-- a request that was accepted -/
structure Request where
  type : ReqType
  seq : Nat
  rc : Rc
  deriving DecidableEq, Repr

structure World where
  t : Table
  sent : List Request
  called : List (Call × Msg)
  settled : List Nat
  deriving DecidableEq, Repr

def World.start : World := ⟨Table.start, [], [], []⟩

inductive Event where
  | request (type : ReqType) (rc : Rc) (sent : Bool)
  | reply (reader : Reader) (m : Msg) (resent : Bool)
  | notify (m : Msg)
  /-- overflow or truncation on the request socket -/
  | lostReplies (reader : Reader)
  /-- on the notification socket -/
  | lostEvents
  /-- PFK_FLAG_WAITREPLY: no reply to `want` in time -/
  | timeout (want : Nat)
  | sync
  | resync (spdSent saSent : Bool)
  /-- the dumps timed out, or were lost -/
  | resyncEnd
  /-- `rcpfk_init` -/
  | init
  /-- `rcpfk_clean` -/
  | clean
  deriving DecidableEq, Repr

/-- the message ends the reply to a request of this type; `again`: the request was sent again -/
def isLast (type : ReqType) (kind : Kind) (again : Bool) : Bool :=
  match kind with
  | .error e => if e = 0 then type ≠ .allocspi ∧ type ≠ .getsa else !(e == ebusy && again)
  | .newsa _ => type = .allocspi ∨ type = .getsa
  | .done => type = .dumppolicy
  | _ => false

/-- the requests that an event settles -/
def settledBy (w : World) : Event → List Nat
  | .request _ _ sent => if sent then [] else [w.sent.length]
  | .reply _ m resent =>
    match m.cause with
    | .request id =>
      let again := resent && w.t.ops.any fun op => op.id == id && op.retries < ebusyRetries
      if w.sent[id]?.any fun r => isLast r.type m.kind again then [id] else []
    | _ => []
  | .lostReplies _ => List.range w.sent.length
  | .timeout want => (w.t.ops.filter fun op => op.seq == want).map Op.id
  | .init => List.range w.sent.length
  | .clean => List.range w.sent.length
  | _ => []

/-- the callbacks of a message -/
def World.deliver (w : World) (m : Msg) (r : Table × List Output) : World :=
  { w with t := r.1, called := w.called ++ (r.2.filterMap Output.call?).map fun c => (c, m) }

def World.settle (w : World) (ids : List Nat) : World := { w with settled := ids ++ w.settled }

section
variable (d : Daemon)

def step (w : World) (e : Event) : World :=
  let ids := settledBy w e
  match e with
  | .request type rc sent =>
    match request w.t w.sent.length type rc sent with
    | none => { w with t := nlmsg w.t rc }
    | some t =>
      { w.settle ids with t := t, sent := w.sent ++ [⟨type, nlmsgSeq w.t rc, rc⟩] }
  | .reply reader m resent => (w.deliver m (readMsg d w.t reader m resent)).settle ids
  | .notify m => w.deliver m (dispatchEvent d w.t m)
  | .lostReplies reader => { w.settle ids with t := Xfrm.lostReplies w.t reader }
  | .lostEvents => { w with t := { w.t with needResync := true } }
  | .timeout want => { w.settle ids with t := opFreeSeq w.t want }
  | .sync => { w with t := nextSync w.t }
  | .resync spdSent saSent => { w with t := resyncPass d w.t spdSent saSent }
  | .resyncEnd => { w with t := { w.t with resyncSpdSeq := 0, resyncSaSeq := 0 } }
  | .init =>
    { w.settle ids with
      t := { opClearAll w.t with
        dumpSeq := 0, resyncSpdSeq := 0, resyncSaSeq := 0, needResync := false } }
  | .clean => { w.settle ids with t := opClearAll w.t }

/-! ## the kernel -/

/-- a message of the multicast groups -/
def Kind.isEvent : Kind → Bool
  | .noop => false
  | .done => false
  | .error _ => false
  | _ => true

/-- a caller that waits passes the `rc` of its request -/
def Reader.Waits (w : World) : Reader → Prop
  | .wait want rc =>
    ∃ op ∈ w.t.ops, op.seq = want ∧ w.sent[op.id]?.any (fun r => r.rc = rc) = true
  | _ => True

instance Reader.Waits.decidable (w : World) : ∀ reader : Reader, Decidable (reader.Waits w)
  | .handler => inferInstanceAs (Decidable True)
  | .wait want rc => inferInstanceAs (Decidable (∃ op ∈ w.t.ops, op.seq = want ∧ _ = true))
  | .sync => inferInstanceAs (Decidable True)

/-- the message carries the sequence number of the request -/
def World.answers (w : World) (m : Msg) (id : Nat) : Bool := w.sent[id]?.any fun r => r.seq = m.seq

/-- a reply is caused by an own request -/
def World.causesReply (w : World) (m : Msg) : Cause → Bool
  | .request id => w.answers m id
  | .sync => true
  | .resync => true
  | .other => false
  | .kernel => false

/-- an event has the port id of who caused it, or 0 -/
def World.causesEvent (w : World) (m : Msg) : Cause → Bool
  | .request id => m.pid = d.pid ∧ w.answers m id
  | .sync => m.pid = d.pid
  | .resync => false
  | .other => m.pid ≠ d.pid
  | .kernel => m.pid = 0

/-- what the kernel can send -/
def Possible (w : World) : Event → Prop
  | .reply reader m _ =>
    (m.pid = 0 ∨ m.pid = d.pid) ∧ reader.Waits w ∧ w.causesReply m m.cause = true
  | .notify m => m.kind.isEvent = true ∧ w.causesEvent d m m.cause = true
  | _ => True

instance Possible.decidable (w : World) : ∀ e : Event, Decidable (Possible d w e)
  | .reply reader m _ =>
    inferInstanceAs (Decidable ((m.pid = 0 ∨ m.pid = d.pid) ∧ reader.Waits w ∧ _ = true))
  | .notify m => inferInstanceAs (Decidable (m.kind.isEvent = true ∧ _ = true))
  | .request _ _ _ => inferInstanceAs (Decidable True)
  | .lostReplies _ => inferInstanceAs (Decidable True)
  | .lostEvents => inferInstanceAs (Decidable True)
  | .timeout _ => inferInstanceAs (Decidable True)
  | .sync => inferInstanceAs (Decidable True)
  | .resync _ _ => inferInstanceAs (Decidable True)
  | .resyncEnd => inferInstanceAs (Decidable True)
  | .init => inferInstanceAs (Decidable True)
  | .clean => inferInstanceAs (Decidable True)

end

/-! ## the purpose -/

/-- the container is an empty one, or that of the caller -/
def IsContainer (r : Request) (rc : Rc) : Prop :=
  rc = { seq := r.seq } ∨ rc = { r.rc with seq := r.seq, event := false, resync := false }

/-- what a callback gets: the container, with what the request or the message says of the SA -/
def Filled (r : Request) (m : Msg) (rc : Rc) : Prop :=
  ∃ base, IsContainer r base ∧
    (rc = base ∨
      rc = { base with
        spi := r.rc.spi, satype := r.rc.satype, samode := r.rc.samode,
        addrs := r.rc.addrs.or base.addrs } ∨
      ∃ sa, m.kind = .newsa sa ∧ rc = usersaToRc sa base)

/-- a completion is that of the request of the message. A policy that is given out for a dump of the
table is of the reply to a dump -/
def Own (w : World) (c : Call) (m : Msg) : Prop :=
  match c.done with
  | some op => ∃ r, w.sent[op.id]? = some r ∧ r.type.callback = some c.cb ∧
      m.cause = .request op.id ∧ Filled r m c.rc
  | none => c.cb = .spddump → c.rc.resync = false →
      ∃ id r, m.cause = .request id ∧ w.sent[id]? = some r ∧ r.type = .dumppolicy

/-- the requests that were completed with a callback -/
def World.completed (w : World) : List Nat := w.called.filterMap fun p => p.1.done.map Op.id

structure Meets (w : World) : Prop where
  once : w.completed.Nodup
  own : ∀ p ∈ w.called, Own w p.1 p.2
  free : ∀ op ∈ w.t.ops, op.id ∉ w.settled

/-- the sequence number of a request is not 0, and not that of another one in the table, nor of a
dump; and there is one dump at a time -/
def NewSeq (t : Table) (type : ReqType) (seq : Nat) : Prop :=
  (∀ op ∈ t.ops, op.seq ≠ seq) ∧
    (t.ops.length < opsMax → seq ≠ 0 ∧ seq ≠ t.dumpSeq ∧
      (type = .dumppolicy → ∀ op ∈ t.ops, op.type ≠ .dumppolicy))

def Kind.isNewsa : Kind → Bool
  | .newsa _ => true
  | _ => false

def World.isDump (w : World) : Cause → Bool
  | .request id => w.sent[id]?.any fun r => r.type = .dumppolicy
  | _ => false

/-- a policy with the sequence number of a dump answers a dump -/
def OfDump (w : World) (m : Msg) : Prop :=
  m.kind.isPolicy = true → w.t.dumpSeq ≠ 0 → m.seq = w.t.dumpSeq → w.isDump m.cause = true

/-- the sequence number of a reply is that of its own request only -/
def NamesReply (w : World) (reader : Reader) (m : Msg) : Cause → Prop
  | .request id =>
    (∀ op ∈ w.t.ops, op.seq = m.seq → op.id = id) ∧ m.seq ≠ w.t.resyncSpdSeq ∧
      m.seq ≠ w.t.resyncSaSeq ∧ (reader = .sync → m.seq ≠ w.t.syncSeq)
  | _ => ∀ op ∈ w.t.ops, op.seq ≠ m.seq

/-- so is that of an echo. The NEWSA event of another process has no number of a request that a NEWSA
completes -/
def NamesEvent (w : World) (m : Msg) : Cause → Prop
  | .request id => ∀ op ∈ w.t.ops, op.seq = m.seq → op.id = id
  | .sync => ∀ op ∈ w.t.ops, op.seq ≠ m.seq
  | _ => OfDump w m ∧
      (m.kind.isNewsa = true → ∀ op ∈ w.t.ops, op.seq = m.seq → newsaCallback op.type = none)

def Ok (w : World) : Event → Prop
  | .request type rc _ => NewSeq w.t type (nlmsgSeq w.t rc)
  | .reply reader m _ => OfDump w m ∧ NamesReply w reader m m.cause
  | .notify m => NamesEvent w m m.cause
  | .lostReplies reader => reader = .sync → w.t.ops = []
  | _ => True

instance NewSeq.decidable (t : Table) (type : ReqType) (seq : Nat) : Decidable (NewSeq t type seq) :=
  inferInstanceAs (Decidable (_ ∧ (_ → _ ∧ _ ∧ (_ → ∀ op ∈ t.ops, op.type ≠ .dumppolicy))))

instance OfDump.decidable (w : World) (m : Msg) : Decidable (OfDump w m) :=
  inferInstanceAs (Decidable (_ → _ → _ → _ = true))

instance NamesReply.decidable (w : World) (reader : Reader) (m : Msg) :
    ∀ c : Cause, Decidable (NamesReply w reader m c)
  | .request id =>
    inferInstanceAs (Decidable ((∀ op ∈ w.t.ops, op.seq = m.seq → op.id = id) ∧ _ ∧ _ ∧ (_ → _)))
  | .sync => inferInstanceAs (Decidable (∀ op ∈ w.t.ops, op.seq ≠ m.seq))
  | .resync => inferInstanceAs (Decidable (∀ op ∈ w.t.ops, op.seq ≠ m.seq))
  | .other => inferInstanceAs (Decidable (∀ op ∈ w.t.ops, op.seq ≠ m.seq))
  | .kernel => inferInstanceAs (Decidable (∀ op ∈ w.t.ops, op.seq ≠ m.seq))

instance NamesEvent.decidable (w : World) (m : Msg) : ∀ c : Cause, Decidable (NamesEvent w m c)
  | .request id => inferInstanceAs (Decidable (∀ op ∈ w.t.ops, op.seq = m.seq → op.id = id))
  | .sync => inferInstanceAs (Decidable (∀ op ∈ w.t.ops, op.seq ≠ m.seq))
  | .resync => inferInstanceAs (Decidable (OfDump w m ∧
      (_ → ∀ op ∈ w.t.ops, op.seq = m.seq → newsaCallback op.type = none)))
  | .other => inferInstanceAs (Decidable (OfDump w m ∧
      (_ → ∀ op ∈ w.t.ops, op.seq = m.seq → newsaCallback op.type = none)))
  | .kernel => inferInstanceAs (Decidable (OfDump w m ∧
      (_ → ∀ op ∈ w.t.ops, op.seq = m.seq → newsaCallback op.type = none)))

instance Ok.decidable (w : World) : ∀ e : Event, Decidable (Ok w e)
  | .request type rc _ => inferInstanceAs (Decidable (NewSeq w.t type (nlmsgSeq w.t rc)))
  | .reply reader m _ => inferInstanceAs (Decidable (OfDump w m ∧ NamesReply w reader m m.cause))
  | .notify m => inferInstanceAs (Decidable (NamesEvent w m m.cause))
  | .lostReplies reader => inferInstanceAs (Decidable (reader = .sync → w.t.ops = []))
  | .lostEvents => inferInstanceAs (Decidable True)
  | .timeout _ => inferInstanceAs (Decidable True)
  | .sync => inferInstanceAs (Decidable True)
  | .resync _ _ => inferInstanceAs (Decidable True)
  | .resyncEnd => inferInstanceAs (Decidable True)
  | .init => inferInstanceAs (Decidable True)
  | .clean => inferInstanceAs (Decidable True)

/-! ## the last message of a reply -/

section
variable {d : Daemon} {t : Table} {m : Msg} {rc : Rc} {op : Op} {waitSeq : Nat} {resent : Bool}

theorem ackOk_frees (hfind : opFind t rc.seq = some op) (hspi : op.type ≠ .allocspi)
    (hget : op.type ≠ .getsa) : (ackOk d t rc).1.ops = Keyed.remove Op.seq t.ops op.seq := by
  simp only [ackOk, hfind]
  split
  · rename_i htype
    exact absurd htype hspi
  · rename_i htype
    exact absurd htype hget
  all_goals rfl

/-- an error that counts as a success is not of a request that waits for a body -/
theorem classifyError_eq_zero {e : Nat} (he : e ≠ 0) (h : classifyError e op.type = 0) :
    op.type ≠ .allocspi ∧ op.type ≠ .getsa := by
  unfold classifyError at h
  split at h
  · rename_i hadd
    obtain htype | htype := hadd.2 <;> rw [htype] <;> exact ⟨by decide, by decide⟩
  · split at h
    · rename_i hdelete
      obtain htype | htype := hdelete.2 <;> rw [htype] <;> exact ⟨by decide, by decide⟩
    · exact absurd h he

theorem handleError_frees {e : Nat} (he : e ≠ 0) (hfind : opFind t rc.seq = some op)
    (hlast : ¬ (e = ebusy ∧ op.retries < ebusyRetries ∧ resent = true)) :
    (handleError d t waitSeq rc e resent).1.ops = Keyed.remove Op.seq t.ops op.seq := by
  simp only [handleError, hfind, if_neg hlast]
  split
  · rename_i hclass
    obtain ⟨hspi, hget⟩ := classifyError_eq_zero he hclass
    exact ackOk_frees hfind hspi hget
  · rfl

theorem handleNlmsg_frees (hfind : opFind t m.seq = some op) (hspd : m.seq ≠ t.resyncSpdSeq)
    (hsa : m.seq ≠ t.resyncSaSeq) (hdump : op.type = .dumppolicy → t.dumpSeq = op.seq)
    (hlast : isLast op.type m.kind (resent && decide (op.retries < ebusyRetries)) = true) :
    (handleNlmsg d t waitSeq m rc resent).1.ops = Keyed.remove Op.seq t.ops op.seq := by
  have hnotSa : ¬ (t.resyncSaSeq ≠ 0 ∧ m.seq = t.resyncSaSeq) := fun h => hsa h.2
  have hnotSpd : ¬ (t.resyncSpdSeq ≠ 0 ∧ m.seq = t.resyncSpdSeq) := fun h => hspd h.2
  simp only [handleNlmsg]
  cases hkind : m.kind with
  | done =>
    rw [hkind] at hlast
    obtain ⟨-, hseq, hne⟩ := mem_of_opFind hfind
    have hdumpSeq : m.seq = t.dumpSeq := hseq.symm.trans (hdump (of_decide_eq_true hlast)).symm
    have hnonzero : t.dumpSeq ≠ 0 := hdumpSeq ▸ hne
    simp only [if_neg hnotSa, if_neg hnotSpd, if_pos (And.intro hnonzero hdumpSeq), opFreeSeq]
    rw [← hdumpSeq, hfind]
    rfl
  | error e =>
    rw [hkind] at hlast
    simp only [if_neg hnotSa, if_neg hnotSpd]
    by_cases he : e = 0
    · simp only [isLast, he, if_true, decide_eq_true_eq] at hlast
      simp only [he, ne_eq, not_true_eq_false, if_false]
      exact ackOk_frees hfind hlast.1 hlast.2
    · simp only [isLast, he, if_false, Bool.not_eq_true', Bool.and_eq_false_iff, beq_eq_false_iff_ne,
        decide_eq_false_iff_not] at hlast
      simp only [ne_eq, he, not_false_eq_true, if_true]
      refine handleError_frees he hfind ?_
      rintro ⟨hbusy, hretries, hresent⟩
      obtain hne | hne | hne := hlast
      · exact hne hbusy
      · exact absurd (hresent.symm.trans hne) (by decide)
      · exact hne hretries
  | newsa sa =>
    rw [hkind] at hlast
    simp only [isLast, decide_eq_true_eq] at hlast
    obtain htype | htype := hlast <;>
      simp only [handleNewsa, if_neg hnotSa, hfind, newsaCallback, htype, opFree]
  | noop | updsa | delsa | newpolicy | updpolicy | delpolicy | notice | other =>
    rw [hkind] at hlast
    exact absurd hlast (by simp only [isLast, Bool.false_eq_true, not_false_eq_true])

/-- the last message of a reply frees the slot -/
theorem readMsg_frees {reader : Reader} (hpid : m.pid = 0 ∨ m.pid = d.pid)
    (hfind : opFind t m.seq = some op) (hspd : m.seq ≠ t.resyncSpdSeq) (hsa : m.seq ≠ t.resyncSaSeq)
    (hsync : reader = .sync → m.seq ≠ t.syncSeq)
    (hdump : op.type = .dumppolicy → t.dumpSeq = op.seq)
    (hlast : isLast op.type m.kind (resent && decide (op.retries < ebusyRetries)) = true) :
    (readMsg d t reader m resent).1.ops = Keyed.remove Op.seq t.ops op.seq := by
  have hstale : ¬ isStale d t m := by
    rintro (hother | hzero | hnone)
    · exact hpid.elim hother.1 hother.2
    · exact (mem_of_opFind hfind).2.2 hzero
    · exact hnone (.inl (by rw [hfind]; rfl))
  cases reader with
  | handler =>
    simp only [readMsg, dispatchReply, if_neg hstale]
    exact handleNlmsg_frees hfind hspd hsa hdump hlast
  | wait want rc =>
    simp only [readMsg, dispatchReply, if_neg hstale]
    exact handleNlmsg_frees hfind hspd hsa hdump hlast
  | sync =>
    simp only [readMsg, dispatchReply, if_neg hstale, if_neg (hsync rfl)]
    exact handleNlmsg_frees hfind hspd hsa hdump hlast

end

/-! ## the invariant -/

/-- a slot holds what the request said -/
structure IsOf (op : Op) (r : Request) : Prop where
  type : op.type = r.type
  seq : op.seq = r.seq
  spi : op.spi = r.rc.spi
  satype : op.satype = r.rc.satype
  samode : op.samode = r.rc.samode
  addrs : op.addrs = r.rc.addrs

structure IsOp (w : World) (op : Op) : Prop where
  request : ∃ r, w.sent[op.id]? = some r ∧ IsOf op r
  nonzero : op.seq ≠ 0
  pending : op.id ∉ w.completed
  dump : op.type = .dumppolicy → w.t.dumpSeq = op.seq

/-- the slots have different sequence numbers, and are of different requests -/
structure Inv (w : World) : Prop extends Meets w where
  distinct : Keyed.Distinct Op.seq w.t.ops
  ids : Keyed.Distinct Op.id w.t.ops
  ops : ∀ op ∈ w.t.ops, IsOp w op
  bound : ∀ id ∈ w.settled, id < w.sent.length

section
variable {d : Daemon} {w : World} {m : Msg} {base : Rc}

theorem Inv.start : Inv World.start where
  once := List.nodup_nil
  own := fun p hp => nomatch hp
  free := fun op hop => nomatch hop
  distinct := List.nodup_nil
  ids := List.nodup_nil
  ops := fun op hop => nomatch hop
  bound := fun id hid => nomatch hid

/-- slots are freed, nothing else happens -/
theorem Inv.shrink (h : Inv w) {t : Table} (hsub : t.ops.Sublist w.t.ops)
    (hdump : ∀ op ∈ t.ops, op.type = .dumppolicy → t.dumpSeq = op.seq) : Inv { w with t := t } where
  once := h.once
  own := h.own
  free := fun op hop => h.free op (hsub.subset hop)
  distinct := h.distinct.sublist hsub
  ids := h.ids.sublist hsub
  ops := fun op hop =>
    have hold := h.ops op (hsub.subset hop)
    ⟨hold.request, hold.nonzero, hold.pending, hdump op hop⟩
  bound := h.bound

/-- nothing is freed -/
theorem Inv.sameOps (h : Inv w) {t : Table} (hops : t.ops = w.t.ops)
    (hdump : t.dumpSeq = w.t.dumpSeq) : Inv { w with t := t } := by
  refine h.shrink (hops ▸ List.Sublist.refl _) fun op hop => ?_
  rw [hdump]
  exact (h.ops op (hops ▸ hop)).dump

theorem Inv.settle (h : Inv w) {ids : List Nat} (hfree : ∀ op ∈ w.t.ops, op.id ∉ ids)
    (hbound : ∀ id ∈ ids, id < w.sent.length) : Inv (w.settle ids) where
  once := h.once
  own := h.own
  free := fun op hop hmem =>
    (List.mem_append.mp hmem).elim (hfree op hop) (h.free op hop)
  distinct := h.distinct
  ids := h.ids
  ops := fun op hop =>
    have hold := h.ops op hop
    ⟨hold.request, hold.nonzero, hold.pending, hold.dump⟩
  bound := fun id hid => (List.mem_append.mp hid).elim (hbound id) (h.bound id)

theorem Inv.id_lt (h : Inv w) {op : Op} (hop : op ∈ w.t.ops) : op.id < w.sent.length := by
  obtain ⟨r, hr, -⟩ := (h.ops op hop).request
  exact (List.getElem?_eq_some_iff.mp hr).1

theorem completed_lt (hown : ∀ p ∈ w.called, Own w p.1 p.2) : ∀ id ∈ w.completed, id < w.sent.length := by
  intro id hid
  obtain ⟨p, hp, hdone⟩ := List.mem_filterMap.mp hid
  obtain ⟨op, hop, rfl⟩ := Option.map_eq_some_iff.mp hdone
  have hown := hown p hp
  simp only [Own, hop] at hown
  obtain ⟨r, hr, -⟩ := hown
  exact (List.getElem?_eq_some_iff.mp hr).1

/-! ## messages -/

theorem completed_deliver (r : Table × List Output) : (w.deliver m r).completed =
    w.completed ++ (r.2.filterMap Output.call?).filterMap fun c => c.done.map Op.id := by
  rw [World.completed, World.deliver, List.filterMap_append, List.filterMap_map]
  rfl

theorem own_deliver (h : Inv w) {r : Table × List Output}
    (hnew : ∀ c ∈ r.2.filterMap Output.call?, Own w c m) :
    ∀ p ∈ (w.deliver m r).called, Own (w.deliver m r) p.1 p.2 := by
  intro p hp
  obtain hp | hp := List.mem_append.mp hp
  · exact h.own p hp
  · obtain ⟨c, hc, rfl⟩ := List.mem_map.mp hp
    exact hnew c hc

theorem own_notice (hdump : OfDump w m) {c : Call} (hc : IsNotice w.t m c) : Own w c m := by
  simp only [Own, hc.done]
  intro hcb hresync
  obtain ⟨hkind, hne, hseq⟩ := hc.dump hcb hresync
  have hisDump := hdump hkind hne hseq
  cases hcause : m.cause with
  | request id =>
    rw [hcause] at hisDump
    obtain ⟨r, hr, htype⟩ := (Option.any_eq_true _ _).mp hisDump
    exact ⟨id, r, rfl, hr, of_decide_eq_true htype⟩
  | sync | resync | other | kernel =>
    rw [hcause] at hisDump
    exact nomatch hisDump

theorem filled_of_filledBy {op : Op} {r : Request} (hof : IsOf op r) (hbase : IsContainer r base)
    {rc : Rc} (h : FilledBy op m base rc) : Filled r m rc := by
  refine ⟨base, hbase, ?_⟩
  obtain rfl | rfl | hsa := h
  · exact .inl rfl
  · refine .inr (.inl ?_)
    have hseq : op.seq = base.seq := by
      obtain rfl | rfl := hbase <;> exact hof.seq
    rw [opFillRc, hseq, hof.spi, hof.satype, hof.samode, hof.addrs]
  · exact .inr (.inr hsa)

theorem Inv.deliver_keep (h : Inv w) (hdump : OfDump w m) {r : Table × List Output}
    (hops : r.1.ops = w.t.ops) (hseq : r.1.dumpSeq = w.t.dumpSeq ∨ opFind w.t w.t.dumpSeq = none)
    (hnotice : ∀ c ∈ r.2.filterMap Output.call?, IsNotice w.t m c) : Inv (w.deliver m r) := by
  have hcompleted : (w.deliver m r).completed = w.completed := by
    rw [completed_deliver, List.filterMap_eq_nil_iff.mpr, List.append_nil]
    intro c hc
    rw [(hnotice c hc).done]
    rfl
  have hmem : ∀ op ∈ (w.deliver m r).t.ops, op ∈ w.t.ops := fun op hop => hops ▸ hop
  refine ⟨⟨?_, own_deliver h fun c hc => own_notice hdump (hnotice c hc), ?_⟩, ?_, ?_, ?_, h.bound⟩
  · rw [hcompleted]
    exact h.once
  · exact fun op hop => h.free op (hmem op hop)
  · exact hops ▸ h.distinct
  · exact hops ▸ h.ids
  · intro op hop
    have hold := h.ops op (hmem op hop)
    refine ⟨hold.request, hold.nonzero, hcompleted ▸ hold.pending, fun htype => ?_⟩
    have hop' := hold.dump htype
    obtain hseq | hnone := hseq
    · exact hseq.trans hop'
    · rw [hop', opFind_of_mem h.distinct (hmem op hop) hold.nonzero] at hnone
      exact nomatch hnone

theorem Inv.deliver_retry (h : Inv w) {op : Op} (hfind : opFind w.t m.seq = some op) {t : Table}
    (hops : t.ops = Keyed.replace Op.seq w.t.ops { op with retries := op.retries + 1 })
    (hdump : t.dumpSeq = w.t.dumpSeq) : Inv (w.deliver m (t, [])) := by
  obtain ⟨hop, -, -⟩ := mem_of_opFind hfind
  have hcalled : (w.deliver m (t, [])).called = w.called := List.append_nil _
  have hcompleted : (w.deliver m (t, [])).completed = w.completed := by
    rw [World.completed, hcalled]
    rfl
  have hids : t.ops.map Op.id = w.t.ops.map Op.id := by
    rw [hops]
    exact h.distinct.map_replace hop rfl rfl
  -- but for its retries, a slot is one that was there
  have hold : ∀ x ∈ t.ops, ∃ y ∈ w.t.ops, x = { y with retries := x.retries } := by
    intro x hx
    rw [hops] at hx
    obtain rfl | ⟨hx, -⟩ := Keyed.mem_replace hx
    · exact ⟨op, hop, rfl⟩
    · exact ⟨x, hx, rfl⟩
  refine ⟨⟨?_, ?_, ?_⟩, ?_, ?_, ?_, h.bound⟩
  · rw [hcompleted]
    exact h.once
  · rw [hcalled]
    exact h.own
  · intro x hx
    obtain ⟨y, hy, heq⟩ := hold x hx
    rw [heq]
    exact h.free y hy
  · show Keyed.Distinct Op.seq t.ops
    rw [hops]
    exact h.distinct.replace _
  · show (t.ops.map Op.id).Nodup
    rw [hids]
    exact h.ids
  · intro x hx
    obtain ⟨y, hy, heq⟩ := hold x hx
    have hyop := h.ops y hy
    obtain ⟨r, hr, hof⟩ := hyop.request
    rw [heq]
    refine ⟨⟨r, hr, ⟨hof.type, hof.seq, hof.spi, hof.satype, hof.samode, hof.addrs⟩⟩,
      hyop.nonzero, ?_, fun htype => ?_⟩
    · rw [hcompleted]
      exact hyop.pending
    · exact hdump.trans (hyop.dump htype)

section
variable {op : Op} {r : Table × List Output} (hcalls : r.2.filterMap Output.call? = [] ∨
  ∃ c, r.2.filterMap Output.call? = [c] ∧ IsCompletion op m base c)

include hcalls

/-- the message completes the request of its slot, or nothing -/
theorem completed_of_calls : (w.deliver m r).completed = w.completed ∨
    (w.deliver m r).completed = w.completed ++ [op.id] := by
  rw [completed_deliver]
  obtain hnil | ⟨c, hc, hcompletion⟩ := hcalls
  · exact .inl (by rw [hnil]; exact List.append_nil _)
  · refine .inr ?_
    rw [hc, List.filterMap_cons, hcompletion.done]
    rfl

/-- a message that the request of its slot caused completes it as its own -/
theorem own_of_calls {q : Request} (hq : w.sent[op.id]? = some q) (hof : IsOf op q)
    (hbase : IsContainer q base) (hcause : m.cause = .request op.id) :
    ∀ c ∈ r.2.filterMap Output.call?, Own w c m := by
  intro c hc
  obtain hnil | ⟨c', hc', hcompletion⟩ := hcalls
  · rw [hnil] at hc
    exact nomatch hc
  · rw [hc', List.mem_singleton] at hc
    subst hc
    simp only [Own, hcompletion.done]
    refine ⟨q, hq, ?_, hcause, filled_of_filledBy hof hbase hcompletion.filled⟩
    rw [← hof.type]
    exact hcompletion.callback

end

theorem Inv.deliver_free (h : Inv w) {op : Op} (hfind : opFind w.t m.seq = some op)
    (hcause : m.cause = .request op.id) {r : Table × List Output}
    (hops : r.1.ops = Keyed.remove Op.seq w.t.ops op.seq)
    (hdump : r.1.dumpSeq = w.t.dumpSeq ∨ m.seq = w.t.dumpSeq)
    (hbase : ∀ q, w.sent[op.id]? = some q → IsOf op q → IsContainer q base)
    (hcalls : r.2.filterMap Output.call? = [] ∨
      ∃ c, r.2.filterMap Output.call? = [c] ∧ IsCompletion op m base c) : Inv (w.deliver m r) := by
  obtain ⟨hop, hseq, -⟩ := mem_of_opFind hfind
  have hisOp := h.ops op hop
  obtain ⟨q, hq, hof⟩ := hisOp.request
  have hmem : ∀ x ∈ (w.deliver m r).t.ops, x ∈ w.t.ops ∧ x.seq ≠ op.seq := by
    intro x hx
    rw [World.deliver, hops] at hx
    exact Keyed.mem_remove hx
  have hne : ∀ x ∈ (w.deliver m r).t.ops, x.id ≠ op.id := by
    intro x hx heq
    obtain ⟨hx, hxseq⟩ := hmem x hx
    exact hxseq (congrArg Op.seq (List.inj_on_of_nodup_map h.ids hx hop heq))
  have hnew := completed_of_calls (w := w) hcalls
  have hown := own_of_calls hcalls hq hof (hbase q hq hof) hcause
  refine ⟨⟨?_, own_deliver h hown, fun x hx => h.free x (hmem x hx).1⟩, ?_, ?_, ?_, h.bound⟩
  · obtain hsame | happend := hnew
    · rw [hsame]
      exact h.once
    · rw [happend]
      refine List.Nodup.append h.once (List.nodup_singleton _) ?_
      intro id hid hid'
      rw [List.mem_singleton] at hid'
      exact hisOp.pending (hid' ▸ hid)
  · show Keyed.Distinct Op.seq r.1.ops
    rw [hops]
    exact h.distinct.remove _
  · show Keyed.Distinct Op.id r.1.ops
    rw [hops]
    exact h.ids.sublist List.filter_sublist
  · intro x hx
    have hold := h.ops x (hmem x hx).1
    refine ⟨hold.request, hold.nonzero, fun hin => ?_, fun htype => ?_⟩
    · obtain hsame | happend := hnew
      · exact hold.pending (hsame ▸ hin)
      · rw [happend, List.mem_append, List.mem_singleton] at hin
        exact hin.elim hold.pending (hne x hx)
    · have hxdump := hold.dump htype
      obtain hdump | hdump := hdump
      · exact hdump.trans hxdump
      · exact absurd (hxdump.symm.trans (hdump.symm.trans hseq.symm)) (hmem x hx).2

/-- a message that frees no slot but that of its own request keeps the invariant -/
theorem Inv.deliver (h : Inv w) {r : Table × List Output} (heffect : Effect d w.t m base r.1 r.2)
    (hdump : OfDump w m)
    (hcause : ∀ op, opFind w.t m.seq = some op → Completes d m op → m.cause = .request op.id)
    (hbase : ∀ op q, opFind w.t m.seq = some op → w.sent[op.id]? = some q → IsOf op q →
      IsContainer q base) : Inv (w.deliver m r) := by
  obtain ⟨t, out⟩ := r
  cases heffect with
  | keep ops dump notice => exact h.deliver_keep hdump ops dump notice
  | retry op found ops dump => exact h.deliver_retry found ops dump
  | free op found completes ops dump calls =>
    exact h.deliver_free found (hcause op found completes) ops dump
      (fun q => hbase op q found) calls

theorem Effect.origin {t' : Table} {out : List Output} (h : Effect d w.t m base t' out) :
    ∀ x ∈ t'.ops, ∃ y ∈ w.t.ops, y.id = x.id ∧ y.seq = x.seq := by
  intro x hx
  cases h with
  | keep ops dump notice => exact ⟨x, ops ▸ hx, rfl, rfl⟩
  | retry op found ops dump =>
    rw [ops] at hx
    obtain rfl | ⟨hx, -⟩ := Keyed.mem_replace hx
    · exact ⟨op, (mem_of_opFind found).1, rfl, rfl⟩
    · exact ⟨x, hx, rfl, rfl⟩
  | free op found completes ops dump calls =>
    rw [ops] at hx
    exact ⟨x, (Keyed.mem_remove hx).1, rfl, rfl⟩

/-! ## replies -/

theorem isContainer_empty {op : Op} {q : Request} (hfind : opFind w.t m.seq = some op)
    (hof : IsOf op q) : IsContainer q (({} : Rc).forMsg m) := by
  refine .inl ?_
  rw [← hof.seq, (mem_of_opFind hfind).2.1]
  rfl

theorem isContainer_reader (h : Inv w) {reader : Reader} (hwaits : reader.Waits w) {op : Op}
    {q : Request} (hfind : opFind w.t m.seq = some op) (hq : w.sent[op.id]? = some q)
    (hof : IsOf op q) : IsContainer q ((reader.container m).forMsg m) := by
  cases reader with
  | handler | sync => exact isContainer_empty hfind hof
  | wait want rc =>
    simp only [Reader.container]
    split
    · rename_i hwant
      obtain ⟨hop, hseq, -⟩ := mem_of_opFind hfind
      obtain ⟨x, hx, hxseq, hrc⟩ := hwaits
      -- the caller waits for the request that the message is for
      have hxop : x = op :=
        List.inj_on_of_nodup_map h.distinct hx hop (hxseq.trans (hwant.symm.trans hseq.symm))
      subst hxop
      rw [hq] at hrc
      have hqrc : q.rc = rc := of_decide_eq_true hrc
      refine .inr ?_
      rw [hqrc, ← hof.seq, hseq]
      rfl
    · exact isContainer_empty hfind hof

/-- the last message of a reply leaves no slot for the request -/
theorem reply_free (h : Inv w) {reader : Reader} {resent : Bool}
    (hp : Possible d w (.reply reader m resent)) (hok : Ok w (.reply reader m resent)) :
    ∀ op ∈ (readMsg d w.t reader m resent).1.ops, op.id ∉ settledBy w (.reply reader m resent) := by
  intro x hx hmem
  obtain ⟨hpid, -, hcauses⟩ := hp
  simp only [settledBy] at hmem
  cases hcause : m.cause with
  | sync | resync | other | kernel =>
    rw [hcause] at hmem
    exact nomatch hmem
  | request id =>
    rw [hcause] at hmem hcauses
    have hnames := hok.2
    rw [hcause] at hnames
    obtain ⟨-, hspd, hsa, hsync⟩ := hnames
    obtain ⟨y, hy, hid, hseq⟩ := (readMsg_effect reader).origin x hx
    simp only at hmem
    split at hmem
    · rename_i hany
      rw [List.mem_singleton] at hmem
      subst hmem
      have hyop := h.ops y hy
      obtain ⟨r, hr, hof⟩ := hyop.request
      rw [hid] at hr
      rw [hr] at hany
      have hmseq : r.seq = m.seq := by
        simp only [World.causesReply, World.answers, hr] at hcauses
        exact of_decide_eq_true hcauses
      have hyseq : y.seq = m.seq := hof.seq.trans hmseq
      have hfind : opFind w.t m.seq = some y :=
        hyseq ▸ opFind_of_mem h.distinct hy hyop.nonzero
      -- there is no other slot of the request whose retries would count
      have hretries : (w.t.ops.any fun op => op.id == x.id && op.retries < ebusyRetries) =
          decide (y.retries < ebusyRetries) := by
        rw [Bool.eq_iff_iff, List.any_eq_true, decide_eq_true_eq]
        constructor
        · rintro ⟨z, hz, hzy⟩
          simp only [Bool.and_eq_true, beq_iff_eq, decide_eq_true_eq] at hzy
          rw [← List.inj_on_of_nodup_map h.ids hz hy (hzy.1.trans hid.symm)]
          exact hzy.2
        · exact fun hlt => ⟨y, hy, by simp only [hid, beq_self_eq_true, hlt, decide_true, Bool.and_self]⟩
      rw [hretries, Option.any_some, ← hof.type] at hany
      rw [readMsg_frees hpid hfind hspd hsa hsync hyop.dump hany] at hx
      exact (Keyed.mem_remove hx).2 hseq.symm
    · exact nomatch hmem

theorem reply_inv (h : Inv w) {reader : Reader} {resent : Bool}
    (hp : Possible d w (.reply reader m resent)) (hok : Ok w (.reply reader m resent)) :
    Inv (step d w (.reply reader m resent)) := by
  have hdeliver : Inv (w.deliver m (readMsg d w.t reader m resent)) := by
    refine h.deliver (readMsg_effect reader) hok.1 ?_ fun op q hfind => isContainer_reader h hp.2.1 hfind
    intro op hfind _
    obtain ⟨hop, hseq, -⟩ := mem_of_opFind hfind
    have hnames := hok.2
    cases hcause : m.cause with
    | request id =>
      rw [hcause] at hnames
      rw [hnames.1 op hop hseq]
    | sync | resync | other | kernel =>
      rw [hcause] at hnames
      exact absurd hseq (hnames op hop)
  refine hdeliver.settle (reply_free h hp hok) ?_
  intro id hid
  simp only [settledBy] at hid
  split at hid
  · rename_i id' hcause
    split at hid
    · rename_i hany
      obtain ⟨r, hr, -⟩ := (Option.any_eq_true _ _).mp hany
      rw [List.mem_singleton] at hid
      subst hid
      exact (List.getElem?_eq_some_iff.mp hr).1
    · exact nomatch hid
  · exact nomatch hid

/-! ## events -/

theorem not_isPolicy_of_isSa {k : Kind} (h : k.isSa = true) : ¬ k.isPolicy = true := by
  cases k with
  | newsa | updsa | delsa => exact Bool.false_ne_true
  | _ => exact absurd h Bool.false_ne_true

/-- an echo is of an SA request in the table, or is dropped -/
theorem echo_inv (h : Inv w) (hecho : isEcho d m)
    (hcause : ∀ op ∈ w.t.ops, op.seq = m.seq → m.cause = .request op.id) :
    Inv (w.deliver m (dispatchEvent d w.t m)) := by
  by_cases hsa : m.kind.isSa = true
  · refine h.deliver dispatchEvent_effect ?_ ?_ fun op q hfind _ => isContainer_empty hfind
    · exact fun hpolicy => absurd hpolicy (not_isPolicy_of_isSa hsa)
    · intro op hfind _
      obtain ⟨hop, hseq, -⟩ := mem_of_opFind hfind
      exact hcause op hop hseq
  · have hdropped : dispatchEvent d w.t m = (w.t, []) := by
      simp only [Bool.not_eq_true] at hsa
      simp only [dispatchEvent, if_pos hecho, hsa, Bool.false_and, Bool.false_eq_true, if_false]
    have hsame : w.deliver m (w.t, []) = w := by
      simp only [World.deliver, List.filterMap_nil, List.map_nil, List.append_nil]
    rw [hdropped, hsame]
    exact h

/-- the event of another process, or of the kernel, frees nothing -/
theorem foreign_inv (h : Inv w) (hecho : ¬ isEcho d m) (hkind : m.kind.isEvent = true)
    (hdump : OfDump w m) (hnewsa : m.kind.isNewsa = true → ∀ op ∈ w.t.ops, op.seq = m.seq →
      newsaCallback op.type = none) : Inv (w.deliver m (dispatchEvent d w.t m)) := by
  refine h.deliver dispatchEvent_effect hdump ?_ fun op q hfind _ => isContainer_empty hfind
  intro op hfind hcompletes
  obtain ⟨hop, hseq, -⟩ := mem_of_opFind hfind
  unfold Completes at hcompletes
  split at hcompletes
  · rename_i hk
    rw [hk] at hkind
    exact nomatch hkind
  · rename_i hk
    rw [hk] at hkind
    exact nomatch hkind
  · rename_i hk
    rw [hk] at hnewsa
    exact absurd (hnewsa rfl op hop hseq) hcompletes
  · exact absurd hcompletes hecho
  · exact hcompletes.elim

theorem notify_inv (h : Inv w) (hp : Possible d w (.notify m)) (hok : Ok w (.notify m)) :
    Inv (step d w (.notify m)) := by
  obtain ⟨hkind, hcauses⟩ := hp
  have hnames : NamesEvent w m m.cause := hok
  have hisEcho : m.pid = d.pid → isEcho d m := fun hpid => ⟨hpid ▸ d.pid_pos.ne', hpid⟩
  show Inv (w.deliver m (dispatchEvent d w.t m))
  cases hcause : m.cause with
  | request id =>
    rw [hcause] at hcauses hnames
    refine echo_inv h (hisEcho (of_decide_eq_true hcauses).1) fun op hop hseq => ?_
    rw [hcause, hnames op hop hseq]
  | sync =>
    rw [hcause] at hcauses hnames
    exact echo_inv h (hisEcho (of_decide_eq_true hcauses)) fun op hop hseq =>
      absurd hseq (hnames op hop)
  | resync =>
    rw [hcause] at hcauses
    exact nomatch hcauses
  | other =>
    rw [hcause] at hcauses hnames
    exact foreign_inv h (fun hecho => of_decide_eq_true hcauses hecho.2) hkind hnames.1 hnames.2
  | kernel =>
    rw [hcause] at hcauses hnames
    exact foreign_inv h (fun hecho => hecho.1 (of_decide_eq_true hcauses)) hkind hnames.1 hnames.2

/-! ## requests -/

/-- the request is in the table, and on its way -/
theorem Inv.accept (h : Inv w) {type : ReqType} {rc : Rc} {seq : Nat} (hseq : seq ≠ 0)
    (hnew : ∀ op ∈ w.t.ops, op.seq ≠ seq)
    (hdump : type = .dumppolicy → ∀ op ∈ w.t.ops, op.type ≠ .dumppolicy) {t : Table}
    (hops : t.ops = w.t.ops ++ [⟨w.sent.length, type, seq, rc.spi, rc.satype, rc.samode, rc.addrs, 0⟩])
    (hdumpSeq : t.dumpSeq = if type = .dumppolicy then seq else w.t.dumpSeq) :
    Inv { w with t := t, sent := w.sent ++ [⟨type, seq, rc⟩] } := by
  have hgrow : ∀ {id : Nat} {r : Request}, w.sent[id]? = some r →
      (w.sent ++ [⟨type, seq, rc⟩])[id]? = some r := fun hr =>
    (List.getElem?_append_left (List.getElem?_eq_some_iff.mp hr).1).trans hr
  have hmem : ∀ op ∈ t.ops, op ∈ w.t.ops ∨
      op = ⟨w.sent.length, type, seq, rc.spi, rc.satype, rc.samode, rc.addrs, 0⟩ := by
    intro op hop
    rw [hops] at hop
    exact (List.mem_append.mp hop).imp_right List.mem_singleton.mp
  refine ⟨⟨h.once, ?_, ?_⟩, ?_, ?_, ?_, ?_⟩
  · intro p hp
    have hown := h.own p hp
    unfold Own at hown ⊢
    split
    · rename_i op hop
      rw [hop] at hown
      obtain ⟨r, hr, hrest⟩ := hown
      exact ⟨r, hgrow hr, hrest⟩
    · rename_i hop
      rw [hop] at hown
      intro hcb hresync
      obtain ⟨id, r, hcause, hr, htype⟩ := hown hcb hresync
      exact ⟨id, r, hcause, hgrow hr, htype⟩
  · intro op hop
    obtain hop | rfl := hmem op hop
    · exact h.free op hop
    · exact fun hin => lt_irrefl _ (h.bound _ hin)
  · show Keyed.Distinct Op.seq t.ops
    rw [hops]
    exact h.distinct.append (Keyed.find_eq_none.mpr hnew)
  · show Keyed.Distinct Op.id t.ops
    rw [hops]
    exact h.ids.append (Keyed.find_eq_none.mpr fun op hop => (h.id_lt hop).ne)
  · intro op hop
    obtain hop | rfl := hmem op hop
    · have hold := h.ops op hop
      obtain ⟨r, hr, hof⟩ := hold.request
      refine ⟨⟨r, hgrow hr, hof⟩, hold.nonzero, hold.pending, fun htype => ?_⟩
      have hnot : type ≠ .dumppolicy := fun htype' => hdump htype' op hop htype
      exact hdumpSeq.trans ((if_neg hnot).trans (hold.dump htype))
    · refine ⟨⟨_, List.getElem?_concat_length, ⟨rfl, rfl, rfl, rfl, rfl, rfl⟩⟩, hseq, ?_, ?_⟩
      · exact fun hin => lt_irrefl _ (completed_lt h.own _ hin)
      · exact fun htype => hdumpSeq.trans (if_pos htype)
  · intro id hid
    show id < (w.sent ++ [_]).length
    rw [List.length_append]
    exact Nat.lt_add_right _ (h.bound id hid)

/-- a number that no request of the table has takes a new slot -/
theorem request_cases {t : Table} {id : Nat} {type : ReqType} {rc : Rc} {sent : Bool}
    (hnew : ∀ op ∈ t.ops, op.seq ≠ nlmsgSeq t rc) :
    (¬ t.ops.length < opsMax ∧ request t id type rc sent = none) ∨
      (t.ops.length < opsMax ∧ ∃ t', request t id type rc sent = some (nlSend t' (nlmsgSeq t rc) sent) ∧
        t'.ops = t.ops ++ [⟨id, type, nlmsgSeq t rc, rc.spi, rc.satype, rc.samode, rc.addrs, 0⟩] ∧
        t'.dumpSeq = if type = .dumppolicy then nlmsgSeq t rc else t.dumpSeq) := by
  obtain ⟨hops, hdump⟩ := @nlmsg_ops t rc
  have hnone : opFind (nlmsg t rc) (nlmsgSeq t rc) = none := by
    unfold opFind
    split
    · rfl
    · rw [hops]
      exact Keyed.find_eq_none.mpr hnew
  by_cases hlt : t.ops.length < opsMax
  · refine .inr ⟨hlt, ?_⟩
    simp only [request, pendingSet, hnone, hops, if_pos hlt, Option.some.injEq]
    refine ⟨_, rfl, ?_, ?_⟩
    · split <;> rfl
    · rw [← hdump]
      split <;> rfl
  · refine .inl ⟨hlt, ?_⟩
    simp only [request, pendingSet, hnone, hops, if_neg hlt]

theorem request_inv (h : Inv w) {type : ReqType} {rc : Rc} {sent : Bool}
    (hok : Ok w (.request type rc sent)) : Inv (step d w (.request type rc sent)) := by
  obtain ⟨hnew, hfits⟩ := hok
  obtain ⟨hfull, hnone⟩ | ⟨hlt, t', hsome, hops, hdumpSeq⟩ :=
    @request_cases w.t w.sent.length type rc sent hnew
  · simp only [step, hnone]
    exact h.sameOps (nlmsg_ops rc).1 (nlmsg_ops rc).2
  · obtain ⟨hseq, hnotDump, hdump⟩ := hfits hlt
    have haccept := h.accept hseq hnew hdump hops hdumpSeq
    simp only [step, hsome]
    cases sent with
    | true => exact haccept
    | false =>
      -- `send` failed: the slot is freed again
      have hmem : ∀ op ∈ (nlSend t' (nlmsgSeq w.t rc) false).ops, op ∈ w.t.ops := by
        intro op hop
        have hne := seq_ne_of_mem_opFreeSeq hseq hop
        have hop := (opFreeSeq_ops_sublist _).subset hop
        rw [hops] at hop
        obtain hop | hop := List.mem_append.mp hop
        · exact hop
        · exact absurd (congrArg Op.seq (List.mem_singleton.mp hop)) hne
      have hfreed := haccept.shrink (opFreeSeq_ops_sublist (t := { t' with
          dumpSeq := if nlmsgSeq w.t rc = t'.dumpSeq then 0 else t'.dumpSeq }) (nlmsgSeq w.t rc)) ?_
      · refine hfreed.settle ?_ ?_
        · intro op hop hin
          exact (h.id_lt (hmem op hop)).ne (List.mem_singleton.mp hin)
        · intro id hid
          rw [List.mem_singleton.mp hid]
          show w.sent.length < (w.sent ++ [_]).length
          rw [List.length_append]
          exact Nat.lt_add_one _
      · intro op hop htype
        have hop := hmem op hop
        have hnot : type ≠ .dumppolicy := fun htype' => hdump htype' op hop htype
        rw [opFreeSeq_dumpSeq]
        simp only [hdumpSeq, if_neg hnot, if_neg hnotDump]
        exact (h.ops op hop).dump htype

theorem step_inv (w : World) (e : Event) (h : Inv w) (hp : Possible d w e ∧ Ok w e) :
    Inv (step d w e) := by
  obtain ⟨hp, hok⟩ := hp
  have hclear : ∀ {t : Table}, t.ops = [] → Inv ({ w with t := t } : World) := fun ht =>
    h.shrink (ht ▸ List.nil_sublist _) fun op hop => nomatch (ht ▸ hop : op ∈ [])
  have hall : ∀ id ∈ List.range w.sent.length, id < w.sent.length := fun id => List.mem_range.mp
  cases e with
  | request type rc sent => exact request_inv h hok
  | reply reader m resent => exact reply_inv h hp hok
  | notify m => exact notify_inv h hp hok
  | lostReplies reader =>
    have hnil : (lostReplies w.t reader).ops = [] := by
      cases reader with
      | sync => exact hok rfl
      | handler | wait => rfl
    refine (hclear hnil).settle (fun op hop => ?_) hall
    rw [hnil] at hop
    exact nomatch hop
  | lostEvents => exact h.sameOps rfl rfl
  | timeout want =>
    have hfreed := h.shrink (opFreeSeq_ops_sublist want) fun op hop htype =>
      (opFreeSeq_dumpSeq want).trans ((h.ops op ((opFreeSeq_ops_sublist want).subset hop)).dump htype)
    refine hfreed.settle ?_ ?_
    · intro op hop hin
      obtain ⟨x, hx, hid⟩ := List.mem_map.mp hin
      obtain ⟨hx, hxseq⟩ := List.mem_filter.mp hx
      have hold := (opFreeSeq_ops_sublist want).subset hop
      have hxop : x = op := List.inj_on_of_nodup_map h.ids hx hold hid
      have hwant : op.seq = want := hxop ▸ beq_iff_eq.mp hxseq
      exact seq_ne_of_mem_opFreeSeq (hwant ▸ (h.ops op hold).nonzero) hop hwant
    · intro id hid
      obtain ⟨x, hx, rfl⟩ := List.mem_map.mp hid
      exact h.id_lt (List.mem_filter.mp hx).1
  | sync => exact h.sameOps rfl rfl
  | resync spdSent saSent => exact h.sameOps rfl rfl
  | resyncEnd => exact h.sameOps rfl rfl
  | init => exact (hclear rfl).settle (fun op hop => nomatch hop) hall
  | clean => exact (hclear rfl).settle (fun op hop => nomatch hop) hall

/-- while sequence numbers are not shared, and `xfrm_sync` meets no loss, every request is completed
once at most, with its own callback and from its own messages, and its slot is free once it is
settled -/
theorem requests_complete_once (d : Daemon) (events : List Event)
    (hrun : Run.Meets (step d) (fun w e => Possible d w e ∧ Ok w e) World.start events) :
    ∀ w ∈ Run.states (step d) World.start events, Meets w := fun w hw =>
  (Run.states_inv step_inv events World.start Inv.start hrun w hw).toMeets

end

/-- a daemon with the port id 700 -/
def port700 : Daemon := ⟨700, fun _ => true, false, by decide⟩

def saRc (seq spi : Nat) : Rc :=
  { seq := seq, spi := spi, satype := 3, samode := 2, addrs := some ([192, 0, 2, 9], [192, 0, 2, 1]) }

def saInfo (spi : Nat) : SaInfo := ⟨spi, 3, 2, 0, [192, 0, 2, 9], [192, 0, 2, 1]⟩

/-- an SPI, an SA that is tried again after EBUSY, and one whose echo comes before the ACK, beside
events of another process and a loss of events -/
def threeRequests : List Event :=
  [.request .allocspi (saRc 0x4000001 0) true, .request .updsa (saRc 0x4000002 5) true,
    .request .newsa (saRc 0 6) true, .notify ⟨.newsa (saInfo 8), 0x4000003, 900, .other⟩,
    .reply .handler ⟨.error 16, 0x4000002, 700, .request 1⟩ true,
    .notify ⟨.newsa (saInfo 6), 1, 700, .request 2⟩, .lostEvents,
    .reply .handler ⟨.newsa (saInfo 7), 0x4000001, 700, .request 0⟩ false,
    .reply .handler ⟨.error 0, 0x4000001, 700, .request 0⟩ false,
    .reply .sync ⟨.error 0, 0x4000002, 700, .request 1⟩ false,
    .reply .handler ⟨.error 0, 1, 700, .request 2⟩ false]

theorem requests_complete_once_three :
    Run.Meets (step port700) (fun w e => Possible port700 w e ∧ Ok w e) World.start threeRequests ∧
      (threeRequests.foldl (step port700) World.start).completed = [2, 0, 1] ∧
      Meets (threeRequests.foldl (step port700) World.start) :=
  ⟨by decide +kernel, by decide +kernel,
    requests_complete_once port700 threeRequests (by decide +kernel) _ (Run.foldl_mem_states _ _)⟩

/-- the SA that another process adds with the same sequence number is taken for the SPI -/
def foreignNewsa : List Event :=
  [.request .allocspi (saRc 0x4000001 0) true,
    .notify ⟨.newsa (saInfo 8), 0x4000001, 900, .other⟩]

/-- the SPIs of ESP and AH are requested with one sequence number -/
def bundle : List Event :=
  [.request .allocspi (saRc 0x4000001 0) true,
    .request .allocspi { saRc 0x4000001 0 with satype := 2 } true,
    .reply .handler ⟨.newsa (saInfo 7), 0x4000001, 700, .request 0⟩ false]

/-- replies are lost while `xfrm_sync` reads -/
def syncOverflow : List Event :=
  [.request .allocspi (saRc 0x4000001 0) true, .sync, .lostReplies .sync]

/-- a second dump is sent before the first one is read -/
def twoDumps : List Event :=
  [.request .dumppolicy {} true, .request .dumppolicy {} true,
    .reply .handler ⟨.done, 1, 700, .request 0⟩ false]

/-- a run that the kernel allows, and that ends in a wrong completion or a slot that stays -/
def Fails (events : List Event) : Prop :=
  Run.Meets (step port700) (Possible port700) World.start events ∧
    ¬ Meets (events.foldl (step port700) World.start)

theorem foreign_newsa_completes :
    Fails foreignNewsa ∧ Fails bundle ∧ Fails syncOverflow ∧ Fails twoDumps := by
  refine ⟨?_, ?_, ?_, ?_⟩
  · refine ⟨by decide +kernel, fun h => ?_⟩
    obtain ⟨r, -, -, hcause, -⟩ := h.own _ (List.mem_singleton_self _)
    exact nomatch hcause
  · refine ⟨by decide +kernel, fun h => ?_⟩
    obtain ⟨r, -, -, hcause, -⟩ := h.own _ (List.mem_singleton_self _)
    exact nomatch hcause
  · exact ⟨by decide +kernel, fun h => absurd h.free (by decide +kernel)⟩
  · exact ⟨by decide +kernel, fun h => absurd h.free (by decide +kernel)⟩

end Xfrm
