import Racoon2.Lib.Bytes
import Racoon2.Lib.Keyed

/-!
# Requests to the kernel

The XFRM backend sends requests on one netlink socket and reads the replies there; events, and the
echoes of its own requests, come on another one. A request has a slot in a table, keyed by its
sequence number, until it is complete.

* `Table`        the slots, and the sequence numbers of the dumps in flight;
* `request`      a request is put in the table and sent;
* `dispatch`     a message of either socket;
* `handleNlmsg`  what it does to the table, and the callbacks.
-/

set_option linter.unusedVariables false

namespace Xfrm
open Bytes

/-! ## requests and messages -/

/-- the requests that are put in the table -/
inductive ReqType where
  | allocspi
  | newsa
  | updsa
  | delsa
  | getsa
  | newpolicy
  | updpolicy
  | delpolicy
  | getpolicy
  /-- XFRM_MSG_GETPOLICY with NLM_F_DUMP -/
  | dumppolicy
  deriving DecidableEq, Repr

/-- the members of `struct rcpfk_cb` -/
inductive Cb where
  | getspi
  | update
  | add
  | delete
  | get
  | expire
  | acquire
  | mapping
  | migrate
  | sadump
  | spdadd
  | spdupdate
  | spddelete
  | spddump
  | spdexpire
  deriving DecidableEq, Repr

/-- what the backend reads and writes of `struct rcpfk_msg` -/
structure Rc where
  seq : Nat := 0
  spi : Nat := 0
  satype : Nat := 0
  samode : Nat := 0
  reqid : Nat := 0
  slid : Nat := 0
  dir : Nat := 0
  /-- `sa_src` and `sa_dst` -/
  addrs : Option (Bytes × Bytes) := none
  /-- `sp_src` and `sp_dst` -/
  selector : Option (Bytes × Bytes) := none
  /-- PFK_FLAG_EVENT -/
  event : Bool := false
  /-- PFK_FLAG_RESYNC -/
  resync : Bool := false
  deriving DecidableEq, Repr

/-- `struct xfrm_usersa_info` -/
structure SaInfo where
  spi : Nat
  satype : Nat
  samode : Nat
  reqid : Nat
  src : Bytes
  dst : Bytes
  deriving DecidableEq, Repr

/-- `struct xfrm_userpolicy_info` -/
structure PolicyInfo where
  index : Nat
  dir : Nat
  src : Bytes
  dst : Bytes
  deriving DecidableEq, Repr

def usersaToRc (sa : SaInfo) (rc : Rc) : Rc :=
  { rc with
    spi := sa.spi
    satype := sa.satype
    samode := sa.samode
    reqid := sa.reqid
    addrs := some (sa.src, sa.dst) }

def userpolToRc (xp : PolicyInfo) (rc : Rc) : Rc :=
  { rc with slid := xp.index, dir := xp.dir, selector := some (xp.src, xp.dst) }

/-- events that are never a reply -/
inductive Notice where
  | expire
  | acquire
  | mapping
  | migrate
  | polexpire
  deriving DecidableEq, Repr

def Notice.cb : Notice → Cb
  | .expire => .expire
  | .acquire => .acquire
  | .mapping => .mapping
  | .migrate => .migrate
  | .polexpire => .spdexpire

/-- `nlmsg_type`, and the body -/
inductive Kind where
  | noop
  | done
  /-- NLMSG_ERROR; 0 is an ACK -/
  | error (e : Nat)
  | newsa (sa : SaInfo)
  | updsa
  | delsa
  | newpolicy (xp : PolicyInfo)
  | updpolicy (xp : PolicyInfo)
  | delpolicy
  /-- with what the handler of the event puts in `rc` -/
  | notice (n : Notice) (rc : Rc)
  | other
  deriving DecidableEq, Repr

/-- who caused a message: a request of the table, one of `xfrm_sync`, a dump of `xfrm_resync`,
another process, the kernel -/
inductive Cause where
  | request (id : Nat)
  | sync
  | resync
  | other
  | kernel
  deriving DecidableEq, Repr

/-- a netlink message. `seq` is that of the request that it answers, as `xfrm_msg_seq` has it -/
structure Msg where
  kind : Kind
  seq : Nat
  pid : Nat
  cause : Cause
  deriving DecidableEq, Repr

/-! ## the table -/

/-- `struct xfrm_op`, with the number of the request -/
structure Op where
  id : Nat
  type : ReqType
  seq : Nat
  spi : Nat
  satype : Nat
  samode : Nat
  addrs : Option (Bytes × Bytes)
  retries : Nat
  deriving DecidableEq, Repr

structure Table where
  /-- the slots of `xfrm_ops` in use -/
  ops : List Op
  lastSeq : Nat
  /-- `pending_dump_seq` -/
  dumpSeq : Nat
  resyncSpdSeq : Nat
  resyncSaSeq : Nat
  resyncCount : Nat
  needResync : Bool
  /-- `xfrm_seq` -/
  seq : Nat
  /-- `xfrm_sync_seq` -/
  syncSeq : Nat
  deriving DecidableEq, Repr

/-- XFRM_OPS_MAX -/
def opsMax : Nat := 16

/-- XFRM_EBUSY_RETRIES -/
def ebusyRetries : Nat := 3

def resyncSeqBase : Nat := 0xf0000000

def Table.start : Table := ⟨[], 0, 0, 0, 0, 0, false, 0, 0xe0000000⟩

section
variable (t : Table)

def opFind (seq : Nat) : Option Op :=
  if seq = 0 then none else Keyed.find Op.seq t.ops seq

def opFree (op : Op) : Table := { t with ops := Keyed.remove Op.seq t.ops op.seq }

def opFreeSeq (seq : Nat) : Table :=
  match opFind t seq with
  | none => t
  | some op => opFree t op

def opClearAll : Table := { t with ops := [], lastSeq := 0 }

/-- `none`: EAGAIN, the table is full -/
def pendingSet (id : Nat) (type : ReqType) (seq : Nat) (rc : Rc) : Option Table :=
  let op : Op := ⟨id, type, seq, rc.spi, rc.satype, rc.samode, rc.addrs, 0⟩
  match opFind t seq with
  | some _ => some { t with ops := Keyed.replace Op.seq t.ops op, lastSeq := seq }
  | none =>
    if t.ops.length < opsMax then some { t with ops := t.ops ++ [op], lastSeq := seq } else none

/-- the sequence number that `xfrm_nlmsg` takes: that of the caller, or the next one -/
def nlmsgSeq (rc : Rc) : Nat := if rc.seq ≠ 0 then rc.seq else (t.seq + 1) % 2 ^ 32

def nlmsg (rc : Rc) : Table := if rc.seq ≠ 0 then t else { t with seq := nlmsgSeq t rc }

/-- `xfrm_nl_send`; `sent`: `send` took all of it -/
def nlSend (seq : Nat) (sent : Bool) : Table :=
  if sent then t
  else opFreeSeq { t with dumpSeq := if seq = t.dumpSeq then 0 else t.dumpSeq } seq

/-- `rcpfk_send_getspi` and its like, when the message could be built; `none`: EAGAIN -/
def request (id : Nat) (type : ReqType) (rc : Rc) (sent : Bool) : Option Table :=
  let seq := nlmsgSeq t rc
  match pendingSet (nlmsg t rc) id type seq rc with
  | none => none
  | some t =>
    let t := if type = .dumppolicy then { t with dumpSeq := seq } else t
    some (nlSend t seq sent)

end

def opFillRc (op : Op) (rc : Rc) : Rc :=
  { rc with
    seq := op.seq
    spi := op.spi
    satype := op.satype
    samode := op.samode
    addrs := op.addrs.or rc.addrs }

/-! ## the handlers -/

/-- the daemon: its port id, the callbacks that it registered, and PFK_FLAG_NOHARM -/
structure Daemon where
  pid : Nat
  registered : Cb → Bool
  noharm : Bool
  pid_pos : 0 < pid

/-- a callback, and the request whose slot was freed for it -/
structure Call where
  cb : Cb
  rc : Rc
  done : Option Op
  deriving DecidableEq, Repr

inductive Output where
  | call (c : Call)
  /-- an error that is returned to the caller -/
  | failed (seq e : Nat)
  /-- `xfrm_stat_late_error` -/
  | late (seq e : Nat)
  /-- `xfrm_stat_stale_reply` -/
  | stale (seq : Nat)
  deriving DecidableEq, Repr

/-- the callback of a NEWSA message for a request -/
def newsaCallback : ReqType → Option Cb
  | .allocspi => some .getspi
  | .updsa => some .update
  | .getsa => some .get
  | .newsa => some .add
  | _ => none

def ebusy : Nat := 16

/-- `xfrm_classify_error`: EEXIST of an add, ENOENT and ESRCH of a delete are a success -/
def classifyError (e : Nat) (type : ReqType) : Nat :=
  if e = 17 ∧ (type = .newsa ∨ type = .newpolicy) then 0
  else if (e = 2 ∨ e = 3) ∧ (type = .delsa ∨ type = .delpolicy) then 0
  else e

section
variable (d : Daemon) (t : Table)

def Daemon.call (cb : Cb) (rc : Rc) (done : Option Op) : List Output :=
  if d.registered cb then [.call ⟨cb, rc, done⟩] else []

def isEcho (m : Msg) : Prop := m.pid ≠ 0 ∧ m.pid = d.pid

instance isEcho.decidable (m : Msg) : Decidable (isEcho d m) :=
  inferInstanceAs (Decidable (m.pid ≠ 0 ∧ m.pid = d.pid))

/-- PFK_FLAG_SEEADD is never set here, so a NEWSA without a slot does nothing -/
def handleNewsa (sa : SaInfo) (rc : Rc) (seq : Nat) : Table × List Output :=
  let rc := { usersaToRc sa rc with seq := seq }
  if t.resyncSaSeq ≠ 0 ∧ seq = t.resyncSaSeq then
    (t, d.call .sadump { rc with resync := true } none)
  else
    match opFind t seq with
    | none => (t, [])
    | some op =>
      match newsaCallback op.type with
      | none => (t, [])
      | some cb =>
        (opFree t op, if d.noharm && cb != .getspi then [] else d.call cb rc (some op))

/-- a policy of a dump, or an event; the event of an own request is skipped -/
def handlePolicy (xp : PolicyInfo) (rc : Rc) (dumped ours : Bool) (cb : Cb) : List Output :=
  let rc := userpolToRc xp rc
  if !dumped && ours then []
  else if dumped then
    d.call .spddump
      { rc with resync := decide (t.resyncSpdSeq ≠ 0 ∧ rc.seq = t.resyncSpdSeq) } none
  else d.call cb { rc with event := true } none

/-- from the label `ack_ok` on -/
def ackOk (rc : Rc) : Table × List Output :=
  match opFind t rc.seq with
  | none => (t, [])
  | some op =>
    match op.type with
    | .allocspi => (t, [])
    | .getsa => (t, [])
    | .updsa => (opFree t op, d.call .update (opFillRc op rc) (some op))
    | .newsa => (opFree t op, d.call .add (opFillRc op rc) (some op))
    | .delsa => (opFree t op, d.call .delete (opFillRc op rc) (some op))
    | .delpolicy => (opFree t op, d.call .spddelete rc (some op))
    | .newpolicy => (opFree t op, d.call .spdadd rc (some op))
    | .updpolicy => (opFree t op, d.call .spdupdate rc (some op))
    | .getpolicy => (opFree t op, [])
    | .dumppolicy => (opFree t op, [])

/-- an error that is not 0. `waitSeq` is `xfrm_wait_seq`; `resent`: `xfrm_resend_op` returned 0 -/
def handleError (waitSeq : Nat) (rc : Rc) (e : Nat) (resent : Bool) : Table × List Output :=
  match opFind t rc.seq with
  | none =>
    ({ t with dumpSeq := if rc.seq = t.dumpSeq then 0 else t.dumpSeq }, [.failed rc.seq e])
  | some op =>
    if e = ebusy ∧ op.retries < ebusyRetries ∧ resent = true then
      ({ t with ops := Keyed.replace Op.seq t.ops { op with retries := op.retries + 1 } }, [])
    else if classifyError e op.type = 0 then ackOk d t rc
    else
      (opFree { t with dumpSeq := if rc.seq = t.dumpSeq then 0 else t.dumpSeq } op,
        [if waitSeq ≠ 0 ∧ rc.seq ≠ waitSeq then .late rc.seq e else .failed rc.seq e])

/-- `handle_nlmsg`; short messages are left out -/
def handleNlmsg (waitSeq : Nat) (m : Msg) (rc : Rc) (resent : Bool) : Table × List Output :=
  let rc := { rc with seq := m.seq, event := false, resync := false }
  let dumped : Bool := decide ((t.dumpSeq ≠ 0 ∧ m.seq = t.dumpSeq) ∨
    (t.resyncSpdSeq ≠ 0 ∧ m.seq = t.resyncSpdSeq))
  match m.kind with
  | .noop => (t, [])
  | .done =>
    if t.resyncSaSeq ≠ 0 ∧ m.seq = t.resyncSaSeq then ({ t with resyncSaSeq := 0 }, [])
    else if t.resyncSpdSeq ≠ 0 ∧ m.seq = t.resyncSpdSeq then ({ t with resyncSpdSeq := 0 }, [])
    else if t.dumpSeq ≠ 0 ∧ m.seq = t.dumpSeq then
      ({ opFreeSeq t t.dumpSeq with dumpSeq := 0 }, [])
    else (t, [])
  | .error e =>
    if t.resyncSaSeq ≠ 0 ∧ m.seq = t.resyncSaSeq then ({ t with resyncSaSeq := 0 }, [])
    else if t.resyncSpdSeq ≠ 0 ∧ m.seq = t.resyncSpdSeq then ({ t with resyncSpdSeq := 0 }, [])
    else if e ≠ 0 then handleError d t waitSeq rc e resent
    else ackOk d t rc
  | .newsa sa => handleNewsa d t sa rc m.seq
  | .delsa =>
    match opFind t m.seq with
    | none => (t, d.call .delete rc none)
    | some op =>
      if op.type = .delsa ∧ isEcho d m then
        (opFree t op, d.call .delete (opFillRc op rc) (some op))
      else (t, d.call .delete rc none)
  | .newpolicy xp => (t, handlePolicy d t xp rc dumped (opFind t m.seq).isSome .spdadd)
  | .updpolicy xp => (t, handlePolicy d t xp rc dumped (opFind t m.seq).isSome .spdupdate)
  | .delpolicy => (t, d.call .spddelete rc none)
  | .notice n rc => (t, d.call n.cb { rc with seq := m.seq } none)
  | .updsa => (t, [])
  | .other => (t, [])

/-- a reply that is not for us, or that no request waits for -/
def isStale (m : Msg) : Prop :=
  (m.pid ≠ 0 ∧ m.pid ≠ d.pid) ∨ m.seq = 0 ∨
    ¬ ((opFind t m.seq).isSome ∨ (t.dumpSeq ≠ 0 ∧ m.seq = t.dumpSeq) ∨
      (t.resyncSpdSeq ≠ 0 ∧ m.seq = t.resyncSpdSeq) ∨ (t.resyncSaSeq ≠ 0 ∧ m.seq = t.resyncSaSeq))

instance isStale.decidable (m : Msg) : Decidable (isStale d t m) :=
  inferInstanceAs (Decidable (_ ∨ _ ∨ ¬ (_ ∨ _ ∨ _ ∨ _)))

/-- the errors of own requests are logged, the others dropped -/
def staleReply (m : Msg) : Output :=
  match m.kind with
  | .error e => if e ≠ 0 ∧ (m.pid = 0 ∨ m.pid = d.pid) then .late m.seq e else .stale m.seq
  | _ => .stale m.seq

/-- the echoes of SA requests are handled -/
def Kind.isSa : Kind → Bool
  | .newsa _ => true
  | .updsa => true
  | .delsa => true
  | _ => false

/-- `xfrm_dispatch` of a reply -/
def dispatchReply (waitSeq : Nat) (m : Msg) (rc : Rc) (resent : Bool) : Table × List Output :=
  if isStale d t m then (t, [staleReply d m]) else handleNlmsg d t waitSeq m rc resent

/-- `xfrm_dispatch` of an event; the container is always an empty one -/
def dispatchEvent (m : Msg) : Table × List Output :=
  if isEcho d m then
    if m.kind.isSa && (opFind t m.seq).isSome then handleNlmsg d t 0 m {} false else (t, [])
  else handleNlmsg d t 0 m {} false

/-! ## the readers of the request socket -/

inductive Reader where
  /-- `rcpfk_handler` and `xfrm_resync` -/
  | handler
  /-- `rcpfk_handler` with PFK_FLAG_WAITREPLY: the caller waits for the reply to `want` -/
  | wait (want : Nat) (rc : Rc)
  | sync
  deriving DecidableEq, Repr

/-- `xfrm_read_msg` and `xfrm_sync_msg` -/
def readMsg (reader : Reader) (m : Msg) (resent : Bool) : Table × List Output :=
  match reader with
  | .handler => dispatchReply d t 0 m {} resent
  | .wait want rc => dispatchReply d t want m (if m.seq = want then rc else {}) resent
  | .sync => if m.seq = t.syncSeq then (t, []) else dispatchReply d t 0 m {} resent

/-- ENOBUFS, or a truncated datagram: `xfrm_read_one` forgets all requests, `xfrm_sync` returns -/
def lostReplies (reader : Reader) : Table :=
  match reader with
  | .sync => t
  | _ => { opClearAll t with dumpSeq := 0, needResync := true }

/-- the next number of `xfrm_sync` -/
def nextSync : Table :=
  let seq := (t.syncSeq + 1) % 2 ^ 32
  { t with syncSeq := if seq < 0xe0000000 ∨ resyncSeqBase ≤ seq then 0xe0000001 else seq }

/-- a pass of `xfrm_resync`; the dumps are sent, or not -/
def resyncPass (spdSent saSent : Bool) : Table :=
  let count := (t.resyncCount + 1) % 2 ^ 32
  let spdSeq := if d.registered .spddump && spdSent then
    (resyncSeqBase + 2 * count + (2 ^ 32 - 1)) % 2 ^ 32 else 0
  { t with
    needResync := false
    resyncCount := count
    resyncSpdSeq := if saSent then spdSeq else 0
    resyncSaSeq := if saSent then (resyncSeqBase + 2 * count) % 2 ^ 32 else 0 }

end

/-! ## what a message does to the table -/

section
variable {d : Daemon} {t : Table} {m : Msg} {rc : Rc} {op : Op} {waitSeq : Nat} {resent : Bool}

theorem mem_of_opFind {seq : Nat} (h : opFind t seq = some op) :
    op ∈ t.ops ∧ op.seq = seq ∧ seq ≠ 0 := by
  unfold opFind at h
  split at h
  · cases h
  · rename_i hne
    obtain ⟨hmem, hseq⟩ := Keyed.mem_of_find h
    exact ⟨hmem, hseq, hne⟩

theorem opFind_of_mem (hd : Keyed.Distinct Op.seq t.ops) (hmem : op ∈ t.ops) (hne : op.seq ≠ 0) :
    opFind t op.seq = some op := by
  unfold opFind
  rw [if_neg hne]
  exact hd.find_of_mem hmem

theorem opFreeSeq_ops_sublist (seq : Nat) : (opFreeSeq t seq).ops.Sublist t.ops := by
  unfold opFreeSeq
  split
  · exact List.Sublist.refl _
  · exact List.filter_sublist

theorem seq_ne_of_mem_opFreeSeq {seq : Nat} (hne : seq ≠ 0) (h : op ∈ (opFreeSeq t seq).ops) :
    op.seq ≠ seq := by
  unfold opFreeSeq at h
  cases hfind : opFind t seq with
  | none =>
    rw [hfind] at h
    rw [opFind, if_neg hne] at hfind
    exact Keyed.find_eq_none.mp hfind op h
  | some op' =>
    rw [hfind] at h
    rw [← (mem_of_opFind hfind).2.1]
    exact (Keyed.mem_remove h).2

theorem opFreeSeq_dumpSeq (seq : Nat) : (opFreeSeq t seq).dumpSeq = t.dumpSeq := by
  unfold opFreeSeq
  split <;> rfl

theorem nlmsg_ops (rc : Rc) : (nlmsg t rc).ops = t.ops ∧ (nlmsg t rc).dumpSeq = t.dumpSeq := by
  unfold nlmsg
  split <;> exact ⟨rfl, rfl⟩

/-- the callback of a request -/
def ReqType.callback : ReqType → Option Cb
  | .allocspi => some .getspi
  | .newsa => some .add
  | .updsa => some .update
  | .delsa => some .delete
  | .getsa => some .get
  | .newpolicy => some .spdadd
  | .updpolicy => some .spdupdate
  | .delpolicy => some .spddelete
  | .getpolicy => none
  | .dumppolicy => none

def Output.call? : Output → Option Call
  | .call c => some c
  | _ => none

def Kind.isPolicy : Kind → Bool
  | .newpolicy _ => true
  | .updpolicy _ => true
  | _ => false

/-- a message of this kind can free the slot of a request -/
def Completes (d : Daemon) (m : Msg) (op : Op) : Prop :=
  match m.kind with
  | .done => True
  | .error _ => True
  | .newsa _ => newsaCallback op.type ≠ none
  | .delsa => isEcho d m
  | _ => False

/-- what a callback gets of the request and the message -/
def FilledBy (op : Op) (m : Msg) (base rc : Rc) : Prop :=
  rc = base ∨ rc = opFillRc op base ∨ ∃ sa, m.kind = .newsa sa ∧ rc = usersaToRc sa base

/-- the completion of a request, when its callback is registered -/
structure IsCompletion (op : Op) (m : Msg) (base : Rc) (c : Call) : Prop where
  done : c.done = some op
  callback : op.type.callback = some c.cb
  filled : FilledBy op m base c.rc

/-- a policy that is not of the dump of a resync is one of the dump in flight -/
structure IsNotice (t : Table) (m : Msg) (c : Call) : Prop where
  done : c.done = none
  dump : c.cb = .spddump → c.rc.resync = false →
    m.kind.isPolicy = true ∧ t.dumpSeq ≠ 0 ∧ m.seq = t.dumpSeq

/-- the table keeps its requests, one is tried again, or one is freed -/
inductive Effect (d : Daemon) (t : Table) (m : Msg) (base : Rc) : Table → List Output → Prop
  | keep {t' : Table} {out : List Output} (ops : t'.ops = t.ops)
      (dump : t'.dumpSeq = t.dumpSeq ∨ opFind t t.dumpSeq = none)
      (notice : ∀ c ∈ out.filterMap Output.call?, IsNotice t m c) : Effect d t m base t' out
  | retry {t' : Table} (op : Op) (found : opFind t m.seq = some op)
      (ops : t'.ops = Keyed.replace Op.seq t.ops { op with retries := op.retries + 1 })
      (dump : t'.dumpSeq = t.dumpSeq) : Effect d t m base t' []
  | free {t' : Table} {out : List Output} (op : Op) (found : opFind t m.seq = some op)
      (completes : Completes d m op) (ops : t'.ops = Keyed.remove Op.seq t.ops op.seq)
      (dump : t'.dumpSeq = t.dumpSeq ∨ m.seq = t.dumpSeq)
      (calls : out.filterMap Output.call? = [] ∨
        ∃ c, out.filterMap Output.call? = [c] ∧ IsCompletion op m base c) : Effect d t m base t' out

theorem call_completion {base : Rc} {cb : Cb} (h : IsCompletion op m base ⟨cb, rc, some op⟩) :
    (d.call cb rc (some op)).filterMap Output.call? = [] ∨
      ∃ c, (d.call cb rc (some op)).filterMap Output.call? = [c] ∧ IsCompletion op m base c := by
  unfold Daemon.call
  split
  · exact .inr ⟨_, rfl, h⟩
  · exact .inl rfl

theorem call_notice {cb : Cb} (h : IsNotice t m ⟨cb, rc, none⟩) :
    ∀ c ∈ (d.call cb rc none).filterMap Output.call?, IsNotice t m c := by
  unfold Daemon.call
  split
  · intro c hc
    rw [List.mem_singleton.mp hc]
    exact h
  · exact fun c hc => nomatch hc

theorem notice_of_ne {cb : Cb} (h : cb ≠ .spddump) : IsNotice t m ⟨cb, rc, none⟩ :=
  ⟨rfl, fun hcb => absurd hcb h⟩

/-- nothing is done -/
theorem Effect.nothing (base : Rc) : Effect d t m base t [] :=
  .keep rfl (.inl rfl) fun c hc => nomatch hc

theorem handleNewsa_effect {sa : SaInfo} (hkind : m.kind = .newsa sa) (hseq : rc.seq = m.seq) :
    Effect d t m rc (handleNewsa d t sa rc m.seq).1 (handleNewsa d t sa rc m.seq).2 := by
  simp only [handleNewsa]
  split
  · exact .keep rfl (.inl rfl) (call_notice (notice_of_ne (by decide)))
  · cases hfind : opFind t m.seq with
    | none => exact Effect.nothing rc
    | some op =>
      simp only
      cases hcb : newsaCallback op.type with
      | none => exact Effect.nothing rc
      | some cb =>
        have hcompletes : Completes d m op := by
          rw [Completes, hkind]
          simp only [hcb, ne_eq, reduceCtorEq, not_false_eq_true]
        refine .free op hfind hcompletes rfl (.inl rfl) ?_
        simp only
        split
        · exact .inl rfl
        · refine call_completion ⟨rfl, ?_, .inr (.inr ⟨sa, hkind, ?_⟩)⟩
          · rw [← hcb]
            cases hop : op.type <;> rw [hop] at hcb <;> first | rfl | exact nomatch hcb
          · rw [← hseq]
            rfl

theorem handlePolicy_notice {xp : PolicyInfo} {ours : Bool} {cb : Cb} (hkind : m.kind.isPolicy = true)
    (hcb : cb ≠ .spddump) (hseq : rc.seq = m.seq) :
    ∀ c ∈ (handlePolicy d t xp rc (decide ((t.dumpSeq ≠ 0 ∧ m.seq = t.dumpSeq) ∨
      (t.resyncSpdSeq ≠ 0 ∧ m.seq = t.resyncSpdSeq))) ours cb).filterMap Output.call?,
      IsNotice t m c := by
  simp only [handlePolicy]
  split
  · exact fun c hc => nomatch hc
  · split
    · rename_i hdumped
      refine call_notice ⟨rfl, fun _ hresync => ⟨hkind, ?_⟩⟩
      have hnot : ¬ (t.resyncSpdSeq ≠ 0 ∧ m.seq = t.resyncSpdSeq) := by
        rw [← hseq]
        exact of_decide_eq_false hresync
      exact (of_decide_eq_true hdumped).resolve_right hnot
    · exact call_notice (notice_of_ne hcb)

theorem ackOk_effect (hcompletes : ∀ op, Completes d m op) (hseq : rc.seq = m.seq) :
    Effect d t m rc (ackOk d t rc).1 (ackOk d t rc).2 := by
  unfold ackOk
  rw [hseq]
  cases hfind : opFind t m.seq with
  | none => exact Effect.nothing rc
  | some op =>
    have hfill : FilledBy op m rc (opFillRc op rc) := .inr (.inl rfl)
    have hsame : FilledBy op m rc rc := .inl rfl
    simp only
    split
    · exact Effect.nothing rc
    · exact Effect.nothing rc
    all_goals
      rename_i htype
      refine .free op hfind (hcompletes op) rfl (.inl rfl) ?_
    · exact call_completion ⟨rfl, by rw [htype]; rfl, hfill⟩
    · exact call_completion ⟨rfl, by rw [htype]; rfl, hfill⟩
    · exact call_completion ⟨rfl, by rw [htype]; rfl, hfill⟩
    · exact call_completion ⟨rfl, by rw [htype]; rfl, hsame⟩
    · exact call_completion ⟨rfl, by rw [htype]; rfl, hsame⟩
    · exact call_completion ⟨rfl, by rw [htype]; rfl, hsame⟩
    · exact .inl rfl
    · exact .inl rfl

theorem handleError_effect {e : Nat} (hcompletes : ∀ op, Completes d m op) (hseq : rc.seq = m.seq) :
    Effect d t m rc (handleError d t waitSeq rc e resent).1
      (handleError d t waitSeq rc e resent).2 := by
  unfold handleError
  rw [hseq]
  cases hfind : opFind t m.seq with
  | none =>
    refine .keep rfl ?_ fun c hc => nomatch hc
    simp only
    split
    · rename_i heq
      exact .inr (heq ▸ hfind)
    · exact .inl rfl
  | some op =>
    simp only
    split
    · exact .retry op hfind rfl rfl
    · split
      · exact ackOk_effect hcompletes hseq
      · refine .free op hfind (hcompletes op) rfl ?_ (.inl ?_)
        · simp only [opFree]
          split
          · rename_i heq
            exact .inr heq
          · exact .inl rfl
        · simp only
          split <;> rfl

/-- the container that a message is put in -/
def Rc.forMsg (rc : Rc) (m : Msg) : Rc := { rc with seq := m.seq, event := false, resync := false }

theorem handleNlmsg_effect : Effect d t m (rc.forMsg m) (handleNlmsg d t waitSeq m rc resent).1
    (handleNlmsg d t waitSeq m rc resent).2 := by
  simp only [handleNlmsg]
  cases hkind : m.kind with
  | noop | updsa | other => exact Effect.nothing _
  | done =>
    have hcompletes : ∀ op, Completes d m op := fun op => by rw [Completes, hkind]; trivial
    simp only
    split
    · exact .keep rfl (.inl rfl) fun c hc => nomatch hc
    · split
      · exact .keep rfl (.inl rfl) fun c hc => nomatch hc
      · split
        · rename_i hdump
          simp only [opFreeSeq]
          cases hfind : opFind t t.dumpSeq with
          | none => exact .keep rfl (.inr hfind) fun c hc => nomatch hc
          | some op =>
            exact .free op (hdump.2 ▸ hfind) (hcompletes op) rfl (.inr hdump.2) (.inl rfl)
        · exact Effect.nothing _
  | error e =>
    have hcompletes : ∀ op, Completes d m op := fun op => by rw [Completes, hkind]; trivial
    simp only
    split
    · exact .keep rfl (.inl rfl) fun c hc => nomatch hc
    · split
      · exact .keep rfl (.inl rfl) fun c hc => nomatch hc
      · split
        · exact handleError_effect hcompletes rfl
        · exact ackOk_effect hcompletes rfl
  | newsa sa => exact handleNewsa_effect hkind rfl
  | delsa =>
    simp only
    cases hfind : opFind t m.seq with
    | none => exact .keep rfl (.inl rfl) (call_notice (notice_of_ne (by decide)))
    | some op =>
      simp only
      split
      · rename_i hown
        have hcompletes : Completes d m op := by
          rw [Completes, hkind]
          exact hown.2
        refine .free op hfind hcompletes rfl (.inl rfl) (call_completion ⟨rfl, ?_, .inr (.inl rfl)⟩)
        rw [hown.1]
        rfl
      · exact .keep rfl (.inl rfl) (call_notice (notice_of_ne (by decide)))
  | newpolicy xp =>
    have hpolicy : m.kind.isPolicy = true := by rw [hkind]; rfl
    exact .keep rfl (.inl rfl) (handlePolicy_notice hpolicy (by decide) rfl)
  | updpolicy xp =>
    have hpolicy : m.kind.isPolicy = true := by rw [hkind]; rfl
    exact .keep rfl (.inl rfl) (handlePolicy_notice hpolicy (by decide) rfl)
  | delpolicy => exact .keep rfl (.inl rfl) (call_notice (notice_of_ne (by decide)))
  | notice n rc =>
    refine .keep rfl (.inl rfl) (call_notice (notice_of_ne ?_))
    cases n <;> decide

theorem dispatchReply_effect :
    Effect d t m (rc.forMsg m) (dispatchReply d t waitSeq m rc resent).1
      (dispatchReply d t waitSeq m rc resent).2 := by
  unfold dispatchReply
  split
  · refine .keep rfl (.inl rfl) ?_
    have hnone : Output.call? (staleReply d m) = none := by
      unfold staleReply
      split
      · split <;> rfl
      · rfl
    intro c hc
    simp only [List.filterMap_cons, hnone, List.filterMap_nil] at hc
    exact nomatch hc
  · exact handleNlmsg_effect

theorem dispatchEvent_effect :
    Effect d t m (({} : Rc).forMsg m) (dispatchEvent d t m).1 (dispatchEvent d t m).2 := by
  unfold dispatchEvent
  split
  · split
    · exact handleNlmsg_effect
    · exact Effect.nothing _
  · exact handleNlmsg_effect

/-- the container of a reader -/
def Reader.container (m : Msg) : Reader → Rc
  | .wait want rc => if m.seq = want then rc else {}
  | _ => {}

theorem readMsg_effect (reader : Reader) : Effect d t m ((reader.container m).forMsg m)
    (readMsg d t reader m resent).1 (readMsg d t reader m resent).2 := by
  cases reader with
  | handler => exact dispatchReply_effect
  | wait want rc => exact dispatchReply_effect
  | sync =>
    simp only [readMsg]
    split
    · exact Effect.nothing _
    · exact dispatchReply_effect

end

end Xfrm
