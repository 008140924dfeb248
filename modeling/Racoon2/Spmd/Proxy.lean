import Racoon2.Lib.Keyed
import Racoon2.Lib.Run

/-!
# The DNS proxy of spmd

spmd takes queries from resolvers, sends them to the live one of its DNS servers and sends the replies
back. Everything is done by tasks: `task_loop` waits with `select`, moves the tasks whose descriptor is
ready to the run queue, runs them, and sweeps the expired queries. A task is done when it has run;
`query_recv` and `response_recv` add themselves again.

Memory and descriptors are named by numbers that are not handed out twice, so that a pointer to what was
freed points to nothing.

* `queryRecv`, `querySend`, `responseRecv`   the handlers;
* `nsCommand`                                what the NS command of the shell does;
* `sweepQueryQ`, `taskListSort`, `Proxy.step` the loop.
-/

set_option linter.unusedVariables false

namespace Spmd

/-- `struct query_q`; `node` is its address, and that of the copy of the client's address -/
structure QueryQ (Addr : Type) where
  node : Nat
  id : UInt16
  client : Addr
  s : Nat
  expiration : Nat
  deriving DecidableEq, Repr

inductive TaskFunc where
  | queryRecv
  | querySend
  /-- with `t->dns` -/
  | responseRecv (dns : Nat)
  /-- with `t->sa`, the client of a query, and the id of the reply -/
  | responseSend (client : Nat) (id : UInt16)
  /-- the shell and the tasks for the kernel -/
  | other
  deriving DecidableEq, Repr

structure ProxyTask where
  node : Nat
  fd : Nat
  func : TaskFunc
  deriving DecidableEq, Repr

/-- `struct dns_server`; `t` is the back pointer to its task -/
structure DnsServer (Addr : Type) where
  node : Nat
  sock : Addr
  s : Nat
  t : Nat
  deriving DecidableEq, Repr

/-- the task that waits for replies of a server -/
def DnsServer.task {Addr : Type} (dns : DnsServer Addr) : ProxyTask := ⟨dns.t, dns.s, .responseRecv dns.node⟩

/-- the queries, the task lists, the run queue and the ring of servers from `dsl->head` on; `fresh` is the
next number to be handed out -/
structure Proxy (Addr : Type) where
  queue : List (QueryQ Addr)
  read : List ProxyTask
  write : List ProxyTask
  run : List ProxyTask
  ring : List (DnsServer Addr)
  live : Nat
  fresh : Nat
  running : Bool
  crashed : Bool
  deriving DecidableEq, Repr

variable {Addr : Type} [DecidableEq Addr]

section
variable (p : Proxy Addr)

/-- the tasks that have not run -/
def Proxy.pending : List ProxyTask := p.read ++ p.write ++ p.run

/-- a pointer that is not valid is followed -/
def Proxy.crash : Proxy Addr := { p with crashed := true }

/-- `task_list_add` -/
def addRead (fd : Nat) (func : TaskFunc) : Proxy Addr :=
  { p with read := p.read ++ [⟨p.fresh, fd, func⟩], fresh := p.fresh + 1 }

def addWrite (fd : Nat) (func : TaskFunc) : Proxy Addr :=
  { p with write := p.write ++ [⟨p.fresh, fd, func⟩], fresh := p.fresh + 1 }

/-! ## the queue -/

/-- `find_query_q` -/
def findQueryQ (id : UInt16) : Option (QueryQ Addr) := Keyed.find QueryQ.id p.queue id

/-- SPMD_EXPIRATION_MARGIN -/
def expirationMargin : Nat := 60

/-- `add_query_q`; -1 is `none`, an id that is already queued changes nothing -/
def addQueryQ (id : UInt16) (client : Addr) (s now : Nat) (memory : Bool) : Option (Proxy Addr) :=
  if (findQueryQ p id).isSome then some p
  else if memory = false then none
  else
    some { p with
      queue := p.queue ++ [⟨p.fresh, id, client, s, now + expirationMargin⟩]
      fresh := p.fresh + 1 }

/-- `sweep_query_q` -/
def sweepQueryQ (now : Nat) : Proxy Addr :=
  { p with queue := p.queue.filter fun q => decide (now ≤ q.expiration) }

/-! ## the ring -/

/-- what `dsl->live` points to -/
def liveServer : Option (DnsServer Addr) := Keyed.find DnsServer.node p.ring p.live

/-- `dns->next` -/
def ringNext (ring : List (DnsServer Addr)) (node : Nat) : Option (DnsServer Addr) :=
  match ring.dropWhile fun dns => dns.node != node with
  | [] => none
  | [_] => ring.head?
  | _ :: dns :: _ => some dns

/-- `dnsl_find` -/
def dnslFind (sa : Addr) : Option (DnsServer Addr) := Keyed.find DnsServer.sock p.ring sa

/-- `dnsl_del`, and whether it returns 0; the last server stays -/
def dnslDel (dns : DnsServer Addr) : Option (Proxy Addr) :=
  if p.ring.length ≤ 1 then none
  else
    some { p with
      ring := Keyed.remove DnsServer.node p.ring dns.node
      live := if p.live = dns.node then ((ringNext p.ring dns.node).map DnsServer.node).getD p.live
        else p.live }

/-! ## handlers -/

/-- what `query_recv` gets: the id and the sender of a packet, the time, and whether memory is left -/
structure QueryIo (Addr : Type) where
  packet : Option (UInt16 × Addr)
  now : Nat
  memory : Bool
  deriving DecidableEq, Repr

/-- `query_recv` with a packet; one with a queued id is forwarded again -/
def acceptQuery (t : ProxyTask) (id : UInt16) (client : Addr) (io : QueryIo Addr) : Proxy Addr :=
  match addQueryQ p id client t.fd io.now io.memory with
  | none => p
  | some p =>
    match liveServer p with
    | none => p.crash
    | some dns => addWrite p dns.s .querySend

/-- `query_recv` -/
def queryRecv (t : ProxyTask) (io : QueryIo Addr) : Proxy Addr :=
  match io.packet with
  | none => addRead p t.fd .queryRecv
  | some (id, client) => addRead (acceptQuery p t id client io) t.fd .queryRecv

inductive SendResult where
  | failed
  | short
  | whole
  deriving DecidableEq, Repr

/-- `query_send`; after a short send the next server becomes the live one -/
def querySend (result : SendResult) : Proxy Addr :=
  if result = .short then
    match ringNext p.ring p.live with
    | none => p.crash
    | some dns => addWrite { p with live := dns.node } dns.s .querySend
  else p

/-- `response_recv` with a reply that `snoop_reply` can read -/
def acceptReply (id : UInt16) : Proxy Addr :=
  match findQueryQ p id with
  | none => p
  | some q => addWrite p q.s (.responseSend q.node id)

/-- the label `fin` of `response_recv`: a new task, for the live server -/
def readdMyself : Proxy Addr :=
  match liveServer p with
  | none => p.crash
  | some dns =>
    addRead { p with ring := Keyed.replace DnsServer.node p.ring { dns with t := p.fresh } }
      dns.s (.responseRecv dns.node)

/-- `response_recv`; without an id the packet is not a reply -/
def responseRecv (reply : Option UInt16) : Proxy Addr :=
  match reply with
  | none => readdMyself p
  | some id => readdMyself (acceptReply p id)

/-! ## the shell -/

inductive NsCommand (Addr : Type) where
  | none
  | add (sa : Addr) (socket : Bool)
  | delete (sa : Addr)
  | change (sa : Addr)
  deriving DecidableEq, Repr

/-- NS ADD: `task_alloc_dns`, `dnsl_add` at the tail of the ring, and the new server is the live one -/
def nsAdd (sa : Addr) (socket : Bool) : Proxy Addr :=
  if (dnslFind p sa).isSome then p
  else if socket = false then p
  else
    { p with
      ring := p.ring ++ [⟨p.fresh, sa, p.fresh, p.fresh⟩]
      read := p.read ++ [⟨p.fresh, p.fresh, .responseRecv p.fresh⟩]
      live := p.fresh
      fresh := p.fresh + 1 }

/-- `task_list_del` on the read list, for a task that has to be there -/
def taskListDel (node : Nat) : Proxy Addr :=
  if p.read.any fun t => t.node == node then
    { p with read := Keyed.remove ProxyTask.node p.read node }
  else p.crash

/-- NS DELETE -/
def nsDelete (sa : Addr) : Proxy Addr :=
  match dnslFind p sa with
  | none => p
  | some dns =>
    match dnslDel p dns with
    | none => p
    | some p => taskListDel p dns.t

/-- NS CHANGE -/
def nsChange (sa : Addr) : Proxy Addr :=
  match dnslFind p sa with
  | none => p
  | some dns => { p with live := dns.node }

/-- `shell_ns_handler` -/
def nsCommand : NsCommand Addr → Proxy Addr
  | .none => p
  | .add sa socket => nsAdd p sa socket
  | .delete sa => nsDelete p sa
  | .change sa => nsChange p sa

/-! ## the loop -/

/-- what the handler of a task meets; `again` and `accepted` are the tasks the shell adds, for its
descriptor and for a new one -/
structure TaskIo (Addr : Type) where
  query : QueryIo Addr
  sent : SendResult
  reply : Option UInt16
  command : NsCommand Addr
  again : Bool
  accepted : Bool
  deriving DecidableEq, Repr

/-- the tasks that a task of the shell adds -/
def shellTasks (t : ProxyTask) (io : TaskIo Addr) : Proxy Addr :=
  let p := if io.again then addRead p t.fd .other else p
  if io.accepted then addRead p p.fresh .other else p

/-- `t->func(t)` -/
def runTask (t : ProxyTask) (io : TaskIo Addr) : Proxy Addr :=
  match t.func with
  | .queryRecv => queryRecv p t io.query
  | .querySend => querySend p io.sent
  | .responseRecv _ => responseRecv p io.reply
  | .responseSend _ _ => p
  | .other => shellTasks (nsCommand p io.command) t io

/-- `task_list_sort` for the descriptors that can be read and written -/
def taskListSort (r w : List Nat) : Proxy Addr :=
  { p with
    run := p.run ++ p.read.filter (fun t => decide (t.fd ∈ r)) ++ p.write.filter (fun t => decide (t.fd ∈ w))
    read := p.read.filter fun t => !decide (t.fd ∈ r)
    write := p.write.filter fun t => !decide (t.fd ∈ w)
    running := true }

end

/-- what happens in `task_loop` -/
inductive ProxyEvent (Addr : Type) where
  /-- `select` returns -/
  | select (r w : List Nat)
  /-- `select` times out -/
  | timeout (now : Nat)
  /-- the first task of the run queue -/
  | task (io : TaskIo Addr)
  /-- the run queue is empty: `task_destruct` and the sweep -/
  | finish (now : Nat)
  deriving DecidableEq, Repr

def Proxy.event (p : Proxy Addr) : ProxyEvent Addr → Proxy Addr
  | .select r w => if p.running then p else taskListSort p r w
  | .timeout now => if p.running then p else sweepQueryQ p now
  | .task io =>
    match p.run with
    | [] => p
    | t :: rest => runTask { p with run := rest } t io
  | .finish now =>
    if p.running && p.run.isEmpty then sweepQueryQ { p with running := false } now else p

def Proxy.step (p : Proxy Addr) (e : ProxyEvent Addr) : Proxy Addr := if p.crashed then p else p.event e

/-- the servers of the configuration, numbered from `n` on -/
def configured : Nat → List Addr → List (DnsServer Addr)
  | _, [] => []
  | n, sa :: rest => ⟨n, sa, n, n⟩ :: configured (n + 1) rest

/-- a task for each resolver socket, numbered from `n` on -/
def resolverTasks : Nat → Nat → List ProxyTask
  | _, 0 => []
  | n, k + 1 => ⟨n, n, .queryRecv⟩ :: resolverTasks (n + 1) k

/-- `spmd_add_dns_task`, `spmd_add_resolver_task` and the task of the shell -/
def Proxy.start (servers : List Addr) (resolvers : Nat) : Proxy Addr where
  queue := []
  read := (configured 0 servers).map DnsServer.task ++ resolverTasks servers.length resolvers ++
    [⟨servers.length + resolvers, servers.length + resolvers, .other⟩]
  write := []
  run := []
  ring := configured 0 servers
  live := 0
  fresh := servers.length + resolvers + 1
  running := false
  crashed := false

end Spmd
