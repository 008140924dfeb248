import Racoon2.Lib.Chain
import Racoon2.Lib.Run
import Racoon2.Iked.Sa

/-!
# The registry of TCP streams

`ikev2_tcp_srv.c` keeps its streams in a linked list: accepted ones, and those that we connect.
`tcp_srv_process` walks the list with a pointer to the link it came through, and unlinks and frees
the streams it finds dead.  In between it reads from the streams; a message that is read may have the
IKE layer register a new stream at the head of the list, or mark a stream dead.

A stream and its `struct tcp_conn` are made and freed together; they have one number here.

* `tcpSrvProcess`      the pass;
* `RegistryRight`      what is registered stays until it is found dead, and is then freed once;
* `PassSafe`           no stream that the head variable leads to registers one and dies in its turn.
-/

set_option linter.unusedVariables false

namespace Ikev2
open Chain

/-! ## the registry -/

/-- `struct tcp_conn` and the part of its `struct tcp_stream` that the registry reads -/
structure TcpConn where
  connecting : Bool
  dead : Bool
  remote : Endpoint
  local_ : Endpoint
  deriving DecidableEq, Repr

structure TcpSrv where
  /-- `conns`, and the `next` fields -/
  cells : Cells Nat
  /-- what is allocated -/
  conn : Nat → Option TcpConn
  /-- the next stream -/
  fresh : Nat
  /-- the streams that were registered, those that a pass found dead, the calls of
  `tcp_stream_free` -/
  registered : List Nat
  found : List Nat
  freed : List Nat

/-- `tcp_srv_init` -/
def tcpSrvInit : TcpSrv := ⟨⟨none, fun _ => none⟩, fun _ => none, 0, [], [], []⟩

/-- TCP_SRV_MAX_CONNS -/
def tcpSrvMaxConns : Nat := 256

section
variable (s : TcpSrv)

/-- the list that `conns` leads to -/
def TcpSrv.conns : List Nat := follow s.cells.next s.fresh s.cells.head

/-- `c->st->dead` -/
def TcpSrv.dead (c : Nat) : Bool := (s.conn c).any TcpConn.dead

def TcpSrv.setConn (c : Nat) (f : TcpConn → TcpConn) : TcpSrv :=
  { s with conn := Function.update s.conn c ((s.conn c).map f) }

/-- a new stream goes to the head -/
def TcpSrv.add (conn : TcpConn) : TcpSrv :=
  { s with
    cells := s.cells.push s.fresh
    conn := Function.update s.conn s.fresh (some conn)
    fresh := s.fresh + 1
    registered := s.registered ++ [s.fresh] }

/-- `tcp_srv_count` -/
def tcpSrvCount : Nat := s.conns.countP fun c => !s.dead c

/-- the two tests of `tcp_srv_find` and `tcp_srv_find_bound` -/
def tcpSrvLookup (test : TcpConn → Bool) : Option Nat :=
  s.conns.find? fun c => !s.dead c && (s.conn c).any test

/-- `tcp_srv_find` -/
def tcpSrvFind (remote local_ : Endpoint) : Option Nat :=
  tcpSrvLookup s fun conn => sameAddr conn.remote remote && sameAddr conn.local_ local_

/-- `tcp_srv_find_bound` -/
def tcpSrvFindBound (remote local_ : Endpoint) : Option Nat :=
  tcpSrvLookup s fun conn =>
    sameAddr conn.remote remote && conn.remote.port == remote.port && sameAddr conn.local_ local_

/-- `tcp_srv_register_connecting` -/
def tcpSrvRegisterConnecting (remote local_ : Endpoint) : TcpSrv := s.add ⟨true, false, remote, local_⟩

/-- `tcp_srv_teardown` -/
def tcpSrvTeardown (c : Nat) : TcpSrv :=
  if c ∈ s.conns then s.setConn c fun conn => { conn with dead := true } else s

end

/-- `tcp_srv_accept_pending`; the connections that wait, with their endpoints -/
def tcpSrvAcceptPending : List (Endpoint × Endpoint) → TcpSrv → TcpSrv
  | [], s => s
  | (remote, local_) :: pending, s =>
    if tcpSrvMaxConns ≤ tcpSrvCount s then s
    else tcpSrvAcceptPending pending (s.add ⟨false, false, remote, local_⟩)

/-! ## the pass -/

/-- what a message that is dispatched does to the registry -/
inductive TcpAction where
  | register (remote local_ : Endpoint)
  | teardown (c : Nat)
  deriving DecidableEq, Repr

def TcpAction.registers : TcpAction → Bool
  | .register _ _ => true
  | .teardown _ => false

def tcpAct (s : TcpSrv) : TcpAction → TcpSrv
  | .register remote local_ => tcpSrvRegisterConnecting s remote local_
  | .teardown c => tcpSrvTeardown s c

/-- what a pass meets at a stream -/
structure TcpTurn where
  /-- `FD_ISSET` of the two sets -/
  readable : Bool
  writable : Bool
  /-- `tcp_stream_connect_done` returned 0 -/
  connected : Bool
  /-- the messages that `tcp_stream_on_readable` dispatches do this -/
  dispatch : List TcpAction
  /-- it returned -1 -/
  readFailed : Bool
  /-- there are octets to flush, and `tcp_stream_flush` returned -1 -/
  flushFailed : Bool
  deriving DecidableEq, Repr

/-- the body of the loop, up to its last test: is the stream dead? -/
def tcpTurn (s : TcpSrv) (c : Nat) (t : TcpTurn) : TcpSrv × Bool :=
  match s.conn c with
  | none => (s, false)
  | some conn =>
    let completes := !conn.dead && conn.connecting && t.writable
    let dead := conn.dead || (completes && !t.connected)
    let connecting := conn.connecting && !(completes && t.connected)
    let s := s.setConn c fun conn => { conn with connecting := connecting }
    let reads := !dead && !connecting && t.readable
    let s := if reads then t.dispatch.foldl tcpAct s else s
    let dead := dead || (reads && t.readFailed)
    -- torn down from inside dispatch
    let dead := dead || s.dead c
    let dead := dead || (!connecting && t.writable && t.flushFailed)
    (s, dead)

/-- the stream is found dead: `*pp = c->next`, `tcp_stream_free`, `free` -/
def TcpSrv.reap (s : TcpSrv) (place : Option Nat) (c : Nat) : TcpSrv :=
  { s with
    cells := (s.cells.assign place (s.cells.deref (some c))).free c
    conn := Function.update s.conn c none
    found := s.found ++ [c]
    freed := s.freed ++ [c] }

/-- the loop of `tcp_srv_process`; `place` is `pp` -/
def processLoop (turn : Nat → TcpTurn) : Nat → Option Nat → TcpSrv → TcpSrv
  | 0, _, s => s
  | fuel + 1, place, s =>
    match s.cells.deref place with
    | none => s
    | some c =>
      let r := tcpTurn s c (turn c)
      if r.2 then processLoop turn fuel place (r.1.reap place c)
      else processLoop turn fuel (some c) r.1

/-- `tcp_srv_process`; `pending` has the connections that wait, when the listener is ready.  The list
has fewer streams than were ever made -/
def tcpSrvProcess (pending : List (Endpoint × Endpoint)) (turn : Nat → TcpTurn) (s : TcpSrv) : TcpSrv :=
  let s := tcpSrvAcceptPending pending s
  processLoop turn s.fresh none s

/-! ## runs -/

inductive SrvEvent where
  | accept (pending : List (Endpoint × Endpoint))
  | register (remote local_ : Endpoint)
  | teardown (c : Nat)
  | process (pending : List (Endpoint × Endpoint)) (turn : Nat → TcpTurn)

def srvStep (s : TcpSrv) : SrvEvent → TcpSrv
  | .accept pending => tcpSrvAcceptPending pending s
  | .register remote local_ => tcpSrvRegisterConnecting s remote local_
  | .teardown c => tcpSrvTeardown s c
  | .process pending turn => tcpSrvProcess pending turn s

/-- what is registered stays until a pass finds it dead; then it is out of the list, was freed once, and
no lookup returns it -/
structure RegistryRight (s : TcpSrv) : Prop where
  stays : ∀ c ∈ s.registered, c ∉ s.found → c ∈ s.conns
  reaped : ∀ c ∈ s.found, c ∉ s.conns ∧ s.freed.count c = 1
  lookup : ∀ remote local_ c,
    tcpSrvFind s remote local_ = some c ∨ tcpSrvFindBound s remote local_ = some c → c ∉ s.freed

/-! ## the condition -/

section
variable (s : TcpSrv) (c : Nat) (t : TcpTurn)

/-- the stream is, or just became, connected -/
def TcpConn.isOpen (conn : TcpConn) : Bool :=
  !conn.dead && (!conn.connecting || (t.writable && t.connected))

/-- the messages of the stream are read in this turn -/
def turnReads : Bool := (s.conn c).any fun conn => conn.isOpen t && t.readable

/-- one of them registers a stream -/
def turnRegisters : Bool :=
  turnReads s c t && t.dispatch.any TcpAction.registers

/-- the stream is dead before its turn, or its connection, a read, a message of its own or a write ends it -/
def turnDies : Bool :=
  (s.conn c).any fun conn =>
    conn.dead || (conn.connecting && t.writable && !t.connected)
      || (conn.isOpen t && t.readable && (t.readFailed || t.dispatch.contains (.teardown c)))
      || (conn.isOpen t && t.writable && t.flushFailed)

end

/-- in a pass over the rest of the list.  `place` is the head variable as long as every stream died in
its turn -/
def PassSafe (turn : Nat → TcpTurn) : TcpSrv → Option Nat → List Nat → Prop
  | _, _, [] => True
  | s, place, c :: rest =>
    ¬ (place = none ∧ turnRegisters s c (turn c) = true ∧ turnDies s c (turn c) = true) ∧
      if turnDies s c (turn c) = true then
        PassSafe turn ((tcpTurn s c (turn c)).1.reap place c) place rest
      else PassSafe turn (tcpTurn s c (turn c)).1 (some c) rest

/-- the condition on an event -/
def EventSafe (s : TcpSrv) : SrvEvent → Prop
  | .process pending turn =>
    PassSafe turn (tcpSrvAcceptPending pending s) none (tcpSrvAcceptPending pending s).conns
  | _ => True

instance PassSafe.decidable (turn : Nat → TcpTurn) :
    ∀ (s : TcpSrv) (place : Option Nat) (l : List Nat), Decidable (PassSafe turn s place l)
  | _, _, [] => inferInstanceAs (Decidable True)
  | s, place, c :: rest =>
    have := PassSafe.decidable turn ((tcpTurn s c (turn c)).1.reap place c) place rest
    have := PassSafe.decidable turn (tcpTurn s c (turn c)).1 (some c) rest
    inferInstanceAs (Decidable
      (¬ (place = none ∧ turnRegisters s c (turn c) = true ∧ turnDies s c (turn c) = true) ∧
        if turnDies s c (turn c) = true then
          PassSafe turn ((tcpTurn s c (turn c)).1.reap place c) place rest
        else PassSafe turn (tcpTurn s c (turn c)).1 (some c) rest))

instance EventSafe.decidable (s : TcpSrv) : ∀ e, Decidable (EventSafe s e)
  | .process pending turn => inferInstanceAs (Decidable (PassSafe turn _ none _))
  | .accept _ => inferInstanceAs (Decidable True)
  | .register _ _ => inferInstanceAs (Decidable True)
  | .teardown _ => inferInstanceAs (Decidable True)

/-! ## the invariant -/

/-- the list is `l` -/
structure TcpSrv.Inv (s : TcpSrv) (l : List Nat) : Prop where
  holds : s.cells.Holds l
  lt : ∀ c ∈ l, c < s.fresh
  alloc : ∀ c ∈ l, (s.conn c).isSome = true
  stays : ∀ c ∈ s.registered, c ∈ l ∨ c ∈ s.found
  once : s.found.Nodup
  apart : ∀ c ∈ s.found, c ∉ l
  foundLt : ∀ c ∈ s.found, c < s.fresh
  freed : s.freed = s.found

section
variable {s s' : TcpSrv} {l a b p : List Nat} {c : Nat} {t : TcpTurn} {turn : Nat → TcpTurn}

theorem TcpSrv.Inv.length_le (h : s.Inv l) : l.length ≤ s.fresh := by
  have hsub : l ⊆ List.range s.fresh := fun c hc => List.mem_range.mpr (h.lt c hc)
  have hle := (h.holds.2.subperm hsub).length_le
  rwa [List.length_range] at hle

theorem TcpSrv.Inv.conns_eq (h : s.Inv l) : s.conns = l :=
  follow_seg h.holds.1 s.fresh h.length_le

theorem inv_init : tcpSrvInit.Inv [] where
  holds := ⟨rfl, List.nodup_nil⟩
  lt := fun c hc => absurd hc List.not_mem_nil
  alloc := fun c hc => absurd hc List.not_mem_nil
  stays := fun c hc => absurd hc List.not_mem_nil
  once := List.nodup_nil
  apart := fun c hc => absurd hc List.not_mem_nil
  foundLt := fun c hc => absurd hc List.not_mem_nil
  freed := rfl

theorem TcpSrv.Inv.add (h : s.Inv l) (conn : TcpConn) : (s.add conn).Inv (s.fresh :: l) where
  holds := h.holds.push fun hm => lt_irrefl _ (h.lt _ hm)
  lt := by
    intro c hc
    rcases List.mem_cons.mp hc with rfl | hc
    · exact Nat.lt_succ_self _
    · exact Nat.lt_succ_of_lt (h.lt c hc)
  alloc := by
    intro c hc
    show (Function.update s.conn s.fresh (some conn) c).isSome = true
    by_cases he : c = s.fresh
    · rw [he, Function.update_self]
      rfl
    · rw [Function.update_of_ne he]
      exact h.alloc c ((List.mem_cons.mp hc).resolve_left he)
  stays := by
    intro c hc
    rcases List.mem_append.mp hc with hc | hc
    · exact (h.stays c hc).imp_left (List.mem_cons_of_mem _)
    · rw [List.mem_singleton.mp hc]
      exact .inl List.mem_cons_self
  once := h.once
  apart := by
    intro c hc hm
    rcases List.mem_cons.mp hm with rfl | hm
    · exact lt_irrefl _ (h.foundLt _ hc)
    · exact h.apart c hc hm
  foundLt := fun c hc => Nat.lt_succ_of_lt (h.foundLt c hc)
  freed := h.freed

theorem TcpSrv.Inv.setConn (h : s.Inv l) (c : Nat) (f : TcpConn → TcpConn) : (s.setConn c f).Inv l where
  holds := h.holds
  lt := h.lt
  alloc := by
    intro d hd
    show (Function.update s.conn c ((s.conn c).map f) d).isSome = true
    by_cases he : d = c
    · rw [he, Function.update_self, Option.isSome_map, ← he]
      exact h.alloc d hd
    · rw [Function.update_of_ne he]
      exact h.alloc d hd
  stays := h.stays
  once := h.once
  apart := h.apart
  foundLt := h.foundLt
  freed := h.freed

theorem TcpSrv.Inv.teardown (h : s.Inv l) (c : Nat) : (tcpSrvTeardown s c).Inv l := by
  unfold tcpSrvTeardown
  split
  · exact h.setConn c _
  · exact h

theorem TcpSrv.Inv.acceptPending (pending : List (Endpoint × Endpoint)) :
    ∀ {s : TcpSrv} {l : List Nat}, s.Inv l → ∃ l', (tcpSrvAcceptPending pending s).Inv l' := by
  induction pending with
  | nil => exact fun h => ⟨_, h⟩
  | cons e pending ih =>
    intro s l h
    unfold tcpSrvAcceptPending
    split
    · exact ⟨l, h⟩
    · exact ih (h.add _)

/-- the stream behind the place after `a` is found dead -/
theorem TcpSrv.Inv.reap (h : s.Inv (a ++ c :: b)) : (s.reap a.getLast? c).Inv (a ++ b) := by
  have hmem : ∀ d, d ∈ a ++ b → d ∈ a ++ c :: b := by
    intro d hd
    rcases List.mem_append.mp hd with hd | hd
    · exact List.mem_append_left _ hd
    · exact List.mem_append_right _ (List.mem_cons_of_mem _ hd)
  have hc : c ∈ a ++ c :: b := List.mem_append_right _ List.mem_cons_self
  have hout : c ∉ a ++ b := (List.nodup_cons.mp (List.nodup_middle.mp h.holds.2)).1
  exact {
    holds := h.holds.remove
    lt := fun d hd => h.lt d (hmem d hd)
    alloc := by
      intro d hd
      show (Function.update s.conn c none d).isSome = true
      have hne : d ≠ c := by
        rintro rfl
        exact hout hd
      rw [Function.update_of_ne hne]
      exact h.alloc d (hmem d hd)
    stays := by
      intro d hd
      show d ∈ a ++ b ∨ d ∈ s.found ++ [c]
      rcases h.stays d hd with hd | hd
      · rcases List.mem_append.mp hd with hd | hd
        · exact .inl (List.mem_append_left _ hd)
        · rcases List.mem_cons.mp hd with rfl | hd
          · exact .inr (List.mem_append_right _ (List.mem_singleton_self _))
          · exact .inl (List.mem_append_right _ hd)
      · exact .inr (List.mem_append_left _ hd)
    once := by
      refine List.nodup_append.mpr ⟨h.once, List.nodup_singleton c, ?_⟩
      intro d hd e he
      rw [List.mem_singleton.mp he]
      rintro rfl
      exact h.apart d hd hc
    apart := by
      intro d hd
      rcases List.mem_append.mp hd with hd | hd
      · exact fun hm => h.apart d hd (hmem d hm)
      · rw [List.mem_singleton.mp hd]
        exact hout
    foundLt := by
      intro d hd
      rcases List.mem_append.mp hd with hd | hd
      · exact h.foundLt d hd
      · rw [List.mem_singleton.mp hd]
        exact h.lt c hc
    freed := by
      show s.freed ++ [c] = s.found ++ [c]
      rw [h.freed] }

/-- the invariant gives what the registry promises -/
theorem TcpSrv.Inv.right (h : s.Inv l) : RegistryRight s where
  stays := by
    intro c hc hnot
    rw [h.conns_eq]
    exact (h.stays c hc).resolve_right hnot
  reaped := by
    intro c hc
    rw [h.conns_eq, h.freed]
    exact ⟨h.apart c hc, List.count_eq_one_of_mem h.once hc⟩
  lookup := by
    intro remote local_ c hfind hfreed
    have hmem : c ∈ s.conns := by
      rcases hfind with hfind | hfind <;> exact List.mem_of_find?_eq_some hfind
    rw [h.conns_eq] at hmem
    rw [h.freed] at hfreed
    exact h.apart c hfreed hmem

/-! ## a turn -/

theorem act_inv (h : s.Inv l) (act : TcpAction) :
    ∃ p, (tcpAct s act).Inv (p ++ l) ∧ (act.registers = false → p = []) := by
  cases act with
  | register remote local_ => exact ⟨[s.fresh], h.add _, fun hr => by cases hr⟩
  | teardown c => exact ⟨[], h.teardown c, fun _ => rfl⟩

theorem dispatch_inv (acts : List TcpAction) :
    ∀ {s : TcpSrv} {l : List Nat}, s.Inv l → ∃ p, (acts.foldl tcpAct s).Inv (p ++ l) ∧
      (acts.any TcpAction.registers = false → p = []) := by
  induction acts with
  | nil => exact fun h => ⟨[], h, fun _ => rfl⟩
  | cons act acts ih =>
    intro s l h
    obtain ⟨p, hp, hnil⟩ := act_inv h act
    obtain ⟨p', hp', hnil'⟩ := ih hp
    refine ⟨p' ++ p, by rwa [List.append_assoc], ?_⟩
    intro hno
    rw [List.any_cons, Bool.or_eq_false_iff] at hno
    rw [hnil hno.1, hnil' hno.2]
    rfl

theorem dead_setConn (f : TcpConn → TcpConn) (c d : Nat) (h : d ≠ c ∨ ∀ conn, (f conn).dead = conn.dead) :
    (s.setConn c f).dead d = s.dead d := by
  show Option.any TcpConn.dead (Function.update s.conn c ((s.conn c).map f) d) = _
  by_cases hdc : d = c
  · subst hdc
    rw [Function.update_self, Option.any_map]
    have hf := h.resolve_left (fun hne => hne rfl)
    show Option.any (fun conn => (f conn).dead) (s.conn d) = _
    simp only [hf]
    rfl
  · rw [Function.update_of_ne hdc]
    rfl

theorem dead_act (h : s.Inv l) (hc : c ∈ l) (act : TcpAction) :
    (tcpAct s act).dead c = (s.dead c || act == .teardown c) := by
  cases act with
  | register remote local_ =>
    have hne : c ≠ s.fresh := (h.lt c hc).ne
    show Option.any TcpConn.dead (Function.update s.conn s.fresh _ c) = _
    rw [Function.update_of_ne hne]
    exact (Bool.or_false _).symm
  | teardown d =>
    show (tcpSrvTeardown s d).dead c = _
    unfold tcpSrvTeardown
    by_cases hd : d = c
    · subst hd
      rw [if_pos (by rw [h.conns_eq]; exact hc), beq_self_eq_true, Bool.or_true]
      obtain ⟨conn, hconn⟩ := Option.isSome_iff_exists.mp (h.alloc d hc)
      show Option.any TcpConn.dead (Function.update s.conn d _ d) = true
      rw [Function.update_self, hconn]
      rfl
    · have hbeq : (TcpAction.teardown d == TcpAction.teardown c) = false := by simpa using hd
      rw [hbeq, Bool.or_false]
      split
      · exact dead_setConn _ d c (.inl (Ne.symm hd))
      · rfl

theorem dead_dispatch (acts : List TcpAction) :
    ∀ {s : TcpSrv} {l : List Nat}, s.Inv l → c ∈ l →
      (acts.foldl tcpAct s).dead c = (s.dead c || acts.contains (.teardown c)) := by
  induction acts with
  | nil => exact fun h hc => (Bool.or_false _).symm
  | cons act acts ih =>
    intro s l h hc
    obtain ⟨p, hp, -⟩ := act_inv h act
    rw [List.foldl_cons, ih hp (List.mem_append_right p hc), dead_act h hc, List.contains_cons,
      Bool.or_assoc, BEq.comm]

/-- the messages of a stream are read when it is open; the state before that differs in `connecting` -/
theorem tcpTurn_eq {conn : TcpConn} (hconn : s.conn c = some conn) :
    ∃ f : TcpConn → TcpConn, (∀ k, (f k).dead = k.dead) ∧
      (tcpTurn s c t).1 =
        (if turnReads s c t then t.dispatch.foldl tcpAct (s.setConn c f) else s.setConn c f) ∧
      (tcpTurn s c t).2 =
        (conn.dead || (conn.connecting && t.writable && !t.connected)
          || (turnReads s c t && t.readFailed) || (tcpTurn s c t).1.dead c
          || (conn.isOpen t && t.writable && t.flushFailed)) := by
  have hreads : turnReads s c t = (!(conn.dead || (!conn.dead && conn.connecting && t.writable
      && !t.connected)) && !(conn.connecting && !(!conn.dead && conn.connecting && t.writable
      && t.connected)) && t.readable) := by
    unfold turnReads TcpConn.isOpen
    rw [hconn, Option.any_some]
    cases conn.dead <;> cases conn.connecting <;> cases t.writable <;> cases t.connected <;> rfl
  refine ⟨fun k => { k with connecting := conn.connecting
    && !(!conn.dead && conn.connecting && t.writable && t.connected) }, fun _ => rfl, ?_, ?_⟩
  · rw [hreads]
    simp only [tcpTurn, hconn]
  · unfold TcpConn.isOpen
    rw [hreads]
    simp only [tcpTurn, hconn]
    generalize TcpSrv.dead _ c = marked
    cases conn.dead <;> cases conn.connecting <;> cases t.writable <;> cases t.connected <;>
      cases t.readable <;> cases t.readFailed <;> cases marked <;> rfl

/-- the streams that a turn registers stand in front -/
theorem tcpTurn_inv (h : s.Inv l) (hc : c ∈ l) :
    ∃ p, (tcpTurn s c t).1.Inv (p ++ l) ∧ (turnRegisters s c t = false → p = []) := by
  obtain ⟨conn, hconn⟩ := Option.isSome_iff_exists.mp (h.alloc c hc)
  obtain ⟨f, hf, hs, -⟩ := tcpTurn_eq (t := t) hconn
  rw [hs]
  unfold turnRegisters
  by_cases hreads : turnReads s c t = true
  · rw [if_pos hreads, hreads, Bool.true_and]
    exact dispatch_inv t.dispatch (h.setConn c f)
  · rw [if_neg hreads]
    exact ⟨[], h.setConn c f, fun _ => rfl⟩

/-- what marks a stream in its turn is a mark before it, or a message of its own -/
theorem tcpTurn_dead (h : s.Inv l) (hc : c ∈ l) {d : Nat} (hd : d ∈ l) :
    (tcpTurn s c t).1.dead d =
      (s.dead d || (turnReads s c t && t.dispatch.contains (.teardown d))) := by
  obtain ⟨conn, hconn⟩ := Option.isSome_iff_exists.mp (h.alloc c hc)
  obtain ⟨f, hf, hs, -⟩ := tcpTurn_eq (t := t) hconn
  rw [hs]
  by_cases hreads : turnReads s c t = true
  · rw [if_pos hreads, dead_dispatch t.dispatch (h.setConn c f) hd, dead_setConn f c d (.inr hf),
      hreads, Bool.true_and]
  · rw [if_neg hreads, dead_setConn f c d (.inr hf), Bool.not_eq_true _ |>.mp hreads,
      Bool.false_and, Bool.or_false]

theorem tcpTurn_dies (h : s.Inv l) (hc : c ∈ l) : (tcpTurn s c t).2 = turnDies s c t := by
  obtain ⟨conn, hconn⟩ := Option.isSome_iff_exists.mp (h.alloc c hc)
  obtain ⟨f, -, -, hdies⟩ := tcpTurn_eq (t := t) hconn
  have hdead : s.dead c = conn.dead := by
    unfold TcpSrv.dead
    rw [hconn, Option.any_some]
  rw [hdies, tcpTurn_dead h hc hc, hdead]
  unfold turnDies turnReads
  rw [hconn, Option.any_some, Option.any_some]
  generalize conn.isOpen t = o
  generalize t.dispatch.contains (.teardown c) = own
  cases conn.dead <;> cases conn.connecting <;> cases t.writable <;> cases t.connected <;>
    cases o <;> cases t.readable <;> cases t.readFailed <;> cases own <;> rfl

/-! ## the pass -/

theorem found_tcpTurn : (tcpTurn s c t).1.found = s.found := by
  cases hconn : s.conn c with
  | none => simp only [tcpTurn, hconn]
  | some conn =>
    obtain ⟨f, -, hs, -⟩ := tcpTurn_eq (t := t) hconn
    have hdispatch : ∀ (acts : List TcpAction) (s : TcpSrv), (acts.foldl tcpAct s).found = s.found := by
      intro acts
      induction acts with
      | nil => exact fun s => rfl
      | cons act acts ih =>
        intro s
        rw [List.foldl_cons, ih]
        cases act with
        | register remote local_ => rfl
        | teardown d =>
          show (tcpSrvTeardown s d).found = s.found
          unfold tcpSrvTeardown
          split <;> rfl
    rw [hs]
    split
    · exact hdispatch t.dispatch _
    · rfl

theorem found_processLoop (turn : Nat → TcpTurn) (fuel : Nat) :
    ∀ {s : TcpSrv} {place : Option Nat}, c ∈ s.found → c ∈ (processLoop turn fuel place s).found := by
  induction fuel with
  | zero => exact fun h => h
  | succ fuel ih =>
    intro s place h
    unfold processLoop
    cases s.cells.deref place with
    | none => exact h
    | some d =>
      have h' : c ∈ (tcpTurn s d (turn d)).1.found := by rwa [found_tcpTurn]
      simp only
      split
      · exact ih (List.mem_append_left [d] h')
      · exact ih h'

theorem turnDies_of_dead (h : s.dead c = true) : turnDies s c t = true := by
  unfold TcpSrv.dead at h
  unfold turnDies
  cases hconn : s.conn c with
  | none =>
    rw [hconn] at h
    cases h
  | some conn =>
    rw [hconn, Option.any_some] at h
    rw [Option.any_some, h]
    rfl

/-- `pp` is the place after the streams that live, `b` those that have not had their turn.  The pass gets
to all of them -/
theorem processLoop_inv (turn : Nat → TcpTurn) :
    ∀ (b : List Nat) {s : TcpSrv} {a : List Nat} (fuel : Nat), s.Inv (a ++ b) → b.length ≤ fuel →
      PassSafe turn s a.getLast? b →
      (∃ l, (processLoop turn fuel a.getLast? s).Inv l) ∧
        ∀ d ∈ b, s.dead d = true → d ∈ (processLoop turn fuel a.getLast? s).found := by
  intro b
  induction b with
  | nil =>
    intro s a fuel h _ _
    refine ⟨⟨a ++ [], ?_⟩, fun d hd => absurd hd List.not_mem_nil⟩
    cases fuel with
    | zero => exact h
    | succ fuel =>
      have hend : s.cells.deref a.getLast? = none := h.holds.seg_place
      unfold processLoop
      rw [hend]
      exact h
  | cons c b ih =>
    intro s a fuel h hfuel hsafe
    cases fuel with
    | zero => cases hfuel
    | succ fuel =>
      have hc : c ∈ a ++ c :: b := List.mem_append_right a List.mem_cons_self
      have hfuel' : b.length ≤ fuel := Nat.le_of_succ_le_succ hfuel
      obtain ⟨hhead, -⟩ := h.holds.seg_place
      obtain ⟨hloss, hrest⟩ := hsafe
      obtain ⟨p, hp, hnil⟩ := tcpTurn_inv (t := turn c) h hc
      have hmark : ∀ d ∈ b, s.dead d = true → (tcpTurn s c (turn c)).1.dead d = true := by
        intro d hd hdead
        rw [tcpTurn_dead h hc (List.mem_append_right a (List.mem_cons_of_mem c hd)), hdead]
        rfl
      rw [← List.append_assoc] at hp
      unfold processLoop
      rw [hhead]
      simp only [tcpTurn_dies h hc]
      by_cases hdies : turnDies s c (turn c) = true
      · rw [if_pos hdies] at hrest ⊢
        -- through the head variable, there is nothing in front that the write could drop
        have hplace : (p ++ a).getLast? = a.getLast? := by
          cases a with
          | nil =>
            have hno : turnRegisters s c (turn c) = false := by
              rw [← Bool.not_eq_true]
              exact fun hr => hloss ⟨rfl, hr, hdies⟩
            rw [hnil hno]
            rfl
          | cons x a => exact List.getLast?_append_of_ne_nil p (List.cons_ne_nil x a)
        have hreap := hp.reap
        have hnot : c ∉ b := (List.nodup_cons.mp (hp.holds.2.sublist (List.sublist_append_right _ _))).1
        rw [hplace] at hreap
        obtain ⟨hinv, hfinds⟩ := ih (a := p ++ a) fuel hreap hfuel' (by rwa [hplace])
        rw [hplace] at hinv hfinds
        refine ⟨hinv, ?_⟩
        intro d hd hdead
        rcases List.mem_cons.mp hd with rfl | hdb
        · exact found_processLoop turn fuel (List.mem_append_right _ (List.mem_singleton_self d))
        · refine hfinds d hdb ?_
          have hne : d ≠ c := fun he => hnot (he ▸ hdb)
          show Option.any TcpConn.dead
            (Function.update (tcpTurn s c (turn c)).1.conn c none d) = true
          rw [Function.update_of_ne hne]
          exact hmark d hdb hdead
      · rw [if_neg hdies] at hrest ⊢
        have hgo := ih (a := p ++ a ++ [c]) fuel (by simpa using hp) hfuel' (by simpa using hrest)
        rw [List.getLast?_concat] at hgo
        refine ⟨hgo.1, ?_⟩
        intro d hd hdead
        rcases List.mem_cons.mp hd with rfl | hd
        · exact absurd (turnDies_of_dead hdead) hdies
        · exact hgo.2 d hd (hmark d hd hdead)

theorem dead_acceptPending (pending : List (Endpoint × Endpoint)) :
    ∀ {s : TcpSrv} {l : List Nat}, s.Inv l → c ∈ l → s.dead c = true →
      ∃ l', (tcpSrvAcceptPending pending s).Inv l' ∧ c ∈ l' ∧
        (tcpSrvAcceptPending pending s).dead c = true := by
  induction pending with
  | nil => exact fun h hc hd => ⟨_, h, hc, hd⟩
  | cons e pending ih =>
    intro s l h hc hd
    unfold tcpSrvAcceptPending
    split
    · exact ⟨l, h, hc, hd⟩
    · refine ih (h.add _) (List.mem_cons_of_mem _ hc) ?_
      have hne : c ≠ s.fresh := (h.lt c hc).ne
      show Option.any TcpConn.dead (Function.update s.conn s.fresh _ c) = true
      rw [Function.update_of_ne hne]
      exact hd

theorem srvStep_inv (e : SrvEvent) (h : ∃ l, s.Inv l) (hsafe : EventSafe s e) :
    ∃ l, (srvStep s e).Inv l := by
  obtain ⟨l, h⟩ := h
  cases e with
  | accept pending => exact h.acceptPending pending
  | register remote local_ => exact ⟨_, h.add _⟩
  | teardown c => exact ⟨l, h.teardown c⟩
  | process pending turn =>
    obtain ⟨l', h'⟩ := h.acceptPending pending
    have hpass : PassSafe turn _ none (tcpSrvAcceptPending pending s).conns := hsafe
    rw [h'.conns_eq] at hpass
    exact (processLoop_inv turn l' (a := []) _ h' h'.length_le hpass).1

/-- a stream that is marked does not outlive the next pass -/
theorem process_finds_marked (h : s.Inv l) {pending : List (Endpoint × Endpoint)}
    (hsafe : EventSafe s (.process pending turn)) (hc : c ∈ l) (hdead : s.dead c = true) :
    c ∈ (srvStep s (.process pending turn)).found := by
  obtain ⟨l', h', hc', hdead'⟩ := dead_acceptPending pending h hc hdead
  have hpass : PassSafe turn _ none (tcpSrvAcceptPending pending s).conns := hsafe
  rw [h'.conns_eq] at hpass
  exact (processLoop_inv turn l' (a := []) _ h' h'.length_le hpass).2 c hc' hdead'

end

/-- in every run without a stream that registers one and dies in the turn that it has through the head
variable, the registry keeps every stream until it finds it dead, and frees it then, once; a pass
finds every stream that is marked -/
theorem registry_keeps_streams (es : List SrvEvent)
    (hsafe : Run.Meets srvStep EventSafe tcpSrvInit es) :
    ∀ s ∈ Run.states srvStep tcpSrvInit es, RegistryRight s ∧
      ∀ pending turn, EventSafe s (.process pending turn) → ∀ c ∈ s.conns, s.dead c = true →
        c ∈ (srvStep s (.process pending turn)).found := by
  have hstep : ∀ (s : TcpSrv) (e : SrvEvent), (∃ l, s.Inv l) → EventSafe s e →
      ∃ l, (srvStep s e).Inv l := fun s e h hok => srvStep_inv e h hok
  intro s hs
  obtain ⟨l, h⟩ := Run.states_inv hstep es tcpSrvInit ⟨[], inv_init⟩ hsafe s hs
  refine ⟨h.right, ?_⟩
  intro pending turn hpass c hc hdead
  rw [h.conns_eq] at hc
  exact process_finds_marked h hpass hc hdead

/-- a turn with nothing to do -/
def idleTurn : TcpTurn := ⟨false, false, true, [], false, false⟩

/-- our stream to a gateway connects, and the reply on it has us connect from a new local address
(`ikev2_mobike_local_reply`); the old stream stays for a while -/
def sampleTcpRun : List SrvEvent :=
  [.register (.v4 198 51 100 7 4500) (.v4 192 0 2 2 40000),
    .process [] fun
      | 0 => ⟨true, true, true, [.register (.v4 198 51 100 7 4500) (.v4 203 0 113 5 40001)], false, false⟩
      | _ => idleTurn,
    .teardown 0,
    .process [] fun _ => idleTurn]

theorem registry_keeps_streams_sample :
    Run.Meets srvStep EventSafe tcpSrvInit sampleTcpRun ∧
      ∀ s ∈ Run.states srvStep tcpSrvInit sampleTcpRun, RegistryRight s ∧
        ∀ pending turn, EventSafe s (.process pending turn) → ∀ c ∈ s.conns, s.dead c = true →
          c ∈ (srvStep s (.process pending turn)).found :=
  ⟨by decide, registry_keeps_streams sampleTcpRun (by decide)⟩

/-- the same, but the gateway closes the old stream right behind the reply -/
def lossyTcpRun : List SrvEvent :=
  [.register (.v4 198 51 100 7 4500) (.v4 192 0 2 2 40000),
    .process [] fun
      | 0 => ⟨true, true, true, [.register (.v4 198 51 100 7 4500) (.v4 203 0 113 5 40001)], true, false⟩
      | _ => idleTurn]

/-- the new stream, which nobody marked, is gone from the list -/
theorem registry_drops_stream :
    (lossyTcpRun.foldl srvStep tcpSrvInit).dead 1 = false ∧
      ¬ ∀ s ∈ Run.states srvStep tcpSrvInit lossyTcpRun, RegistryRight s := by
  refine ⟨by decide, fun h => ?_⟩
  have hlast := (h _ (Run.foldl_mem_states lossyTcpRun tcpSrvInit)).stays 1 (by decide) (by decide)
  revert hlast
  decide

end Ikev2
