import Mathlib.Data.List.TakeWhile
import Racoon2.Spmd.Proxy

/-!
# The stores of the DNS proxy agree

Queries, tasks and servers point to each other: the task that sends a reply points to the client of a
query, the task that waits for replies to a server, and the server back to it. Nothing counts these
pointers. They hold as long as a reply comes from the live server, since `response_recv` adds itself again
for that one and not for its own, and as long as a query with a reply on its way does not expire.

* `StoresAgree`          what the stores should look like;
* `ProxyFits`            the condition on a step;
* `ProxyInv`             the invariant, for a proxy that lacks the tasks of a list;
* `proxyFits_step`       a step under the condition keeps it;
* `query_ids_distinct`   the ids of the queue are distinct in any case.
-/

set_option linter.unusedVariables false
set_option linter.unusedSectionVars false

namespace Spmd

variable {Addr : Type} [DecidableEq Addr]

/-- `response_recv` is to run -/
def ProxyTask.isRecv (t : ProxyTask) : Bool :=
  match t.func with
  | .responseRecv _ => true
  | _ => false

/-- the ids are distinct, every reply on its way goes to the client of a query that is queued with its id,
and every server has one task that waits for its replies -/
structure StoresAgree (p : Proxy Addr) : Prop where
  ids : Keyed.Distinct QueryQ.id p.queue
  sends : ∀ t ∈ p.pending, ∀ client id, t.func = .responseSend client id →
    ∃ q ∈ p.queue, q.node = client ∧ q.id = id
  recvs : ∀ dns ∈ p.ring, p.pending.countP (fun t => t.isRecv && t.fd == dns.s) = 1

/-! ## the condition -/

/-- a reply is on its way to the client of a query -/
def ProxyTask.sendsTo (t : ProxyTask) (node : Nat) : Bool :=
  match t.func with
  | .responseSend client _ => client == node
  | _ => false

/-- no reply is on its way to the client of a query that expires -/
def SweepFits (p : Proxy Addr) (now : Nat) : Prop :=
  ∀ q ∈ p.queue, q.expiration < now → ∀ t ∈ p.pending, t.sendsTo q.node = false

/-- a server that is deleted has its task in the read list, not in the run queue -/
def DeleteFits (p : Proxy Addr) : NsCommand Addr → Prop
  | .delete sa => ∀ dns ∈ dnslFind p sa, 2 ≤ p.ring.length → ∃ u ∈ p.read, u.node = dns.t
  | _ => True

/-- a packet comes from the live server -/
def TaskFits (p : Proxy Addr) (t : ProxyTask) (io : TaskIo Addr) : Prop :=
  match t.func with
  | .responseRecv dns => dns = p.live
  | .other => DeleteFits p io.command
  | _ => True

def ProxyFits (p : Proxy Addr) : ProxyEvent Addr → Prop
  | .select _ _ => True
  | .timeout now => p.running = false → SweepFits p now
  | .task io => ∀ t ∈ p.run.head?, TaskFits p t io
  | .finish now => p.running = true → p.run = [] → SweepFits p now

instance SweepFits.decidable (p : Proxy Addr) (now : Nat) : Decidable (SweepFits p now) :=
  inferInstanceAs (Decidable (∀ q ∈ p.queue, q.expiration < now → ∀ t ∈ p.pending, t.sendsTo q.node = false))

instance DeleteFits.decidable (p : Proxy Addr) : ∀ command, Decidable (DeleteFits p command)
  | .none => inferInstanceAs (Decidable True)
  | .add _ _ => inferInstanceAs (Decidable True)
  | .delete sa =>
    inferInstanceAs (Decidable (∀ dns ∈ dnslFind p sa, 2 ≤ p.ring.length → ∃ u ∈ p.read, u.node = dns.t))
  | .change _ => inferInstanceAs (Decidable True)

instance TaskFits.decidable (p : Proxy Addr) (io : TaskIo Addr) : ∀ t, Decidable (TaskFits p t io)
  | ⟨_, _, .queryRecv⟩ => inferInstanceAs (Decidable True)
  | ⟨_, _, .querySend⟩ => inferInstanceAs (Decidable True)
  | ⟨_, _, .responseRecv dns⟩ => inferInstanceAs (Decidable (dns = p.live))
  | ⟨_, _, .responseSend _ _⟩ => inferInstanceAs (Decidable True)
  | ⟨_, _, .other⟩ => inferInstanceAs (Decidable (DeleteFits p io.command))

instance ProxyFits.decidable (p : Proxy Addr) : ∀ e, Decidable (ProxyFits p e)
  | .select _ _ => inferInstanceAs (Decidable True)
  | .timeout now => inferInstanceAs (Decidable (p.running = false → SweepFits p now))
  | .task io => inferInstanceAs (Decidable (∀ t ∈ p.run.head?, TaskFits p t io))
  | .finish now => inferInstanceAs (Decidable (p.running = true → p.run = [] → SweepFits p now))

/-! ## the invariant -/

/-- the stores of a proxy from which the tasks `gone` have been taken -/
structure ProxyInv (gone : List ProxyTask) (p : Proxy Addr) : Prop where
  crashed : p.crashed = false
  ids : Keyed.Distinct QueryQ.id p.queue
  sends : ∀ t ∈ p.pending, ∀ client id, t.func = .responseSend client id →
    ∃ q ∈ p.queue, q.node = client ∧ q.id = id
  recvs : (gone ++ p.pending.filter ProxyTask.isRecv).Perm (p.ring.map DnsServer.task)
  nodes : Keyed.Distinct DnsServer.node p.ring
  socks : Keyed.Distinct DnsServer.s p.ring
  tasks : Keyed.Distinct ProxyTask.node p.pending
  live : ∃ dns ∈ p.ring, dns.node = p.live
  ring_lt : ∀ dns ∈ p.ring, dns.node < p.fresh ∧ dns.s < p.fresh
  task_lt : ∀ t ∈ p.pending, t.node < p.fresh

theorem task_isRecv (dns : DnsServer Addr) : dns.task.isRecv = true := rfl

section
variable {p : Proxy Addr} {gone : List ProxyTask}

theorem ProxyInv.agree (h : ProxyInv [] p) : StoresAgree p := by
  refine ⟨h.ids, h.sends, ?_⟩
  intro dns hdns
  have hcount : p.pending.countP (fun t => t.isRecv && t.fd == dns.s)
      = (p.pending.filter ProxyTask.isRecv).countP fun t => t.fd == dns.s := by
    rw [List.countP_filter]
    apply List.countP_congr
    intro t _
    rw [Bool.and_comm]
  have hring : (p.ring.map DnsServer.task).countP (fun t => t.fd == dns.s)
      = (p.ring.map DnsServer.s).count dns.s := by
    rw [List.count, List.countP_map, List.countP_map]
    rfl
  have hrecvs : (p.pending.filter ProxyTask.isRecv).Perm (p.ring.map DnsServer.task) := h.recvs
  rw [hcount, hrecvs.countP_eq, hring]
  exact List.count_eq_one_of_mem h.socks (List.mem_map_of_mem hdns)

theorem ProxyInv.live_some (h : ProxyInv gone p) : ∃ dns, liveServer p = some dns ∧ dns ∈ p.ring := by
  obtain ⟨dns, hdns, hlive⟩ := h.live
  refine ⟨dns, ?_, hdns⟩
  rw [liveServer, ← hlive]
  exact h.nodes.find_of_mem hdns

/-! ## tasks that are added and taken -/

section
variable {q : Proxy Addr} {t : ProxyTask}

theorem ProxyInv.add_tasks (h : ProxyInv gone p) (hpending : q.pending.Perm (t :: p.pending))
    (hnode : t.node = p.fresh) : Keyed.Distinct ProxyTask.node q.pending := by
  have hd : Keyed.Distinct ProxyTask.node (t :: p.pending) := by
    refine List.nodup_cons.mpr ⟨?_, h.tasks⟩
    intro hmem
    obtain ⟨u, hu, hsame⟩ := List.mem_map.mp hmem
    have hlt := h.task_lt u hu
    omega
  exact hd.perm hpending.symm

theorem ProxyInv.add_task_lt (h : ProxyInv gone p) (hpending : q.pending.Perm (t :: p.pending))
    (hnode : t.node = p.fresh) (hfresh : q.fresh = p.fresh + 1) : ∀ u ∈ q.pending, u.node < q.fresh := by
  intro u hu
  rcases List.mem_cons.mp (hpending.mem_iff.mp hu) with rfl | hu
  · omega
  · have hlt := h.task_lt u hu
    omega

theorem ProxyInv.add_sends (h : ProxyInv gone p) (hpending : q.pending.Perm (t :: p.pending))
    (hqueue : q.queue = p.queue)
    (hsend : ∀ client id, t.func = .responseSend client id →
      ∃ q ∈ p.queue, q.node = client ∧ q.id = id) :
    ∀ u ∈ q.pending, ∀ client id, u.func = .responseSend client id →
      ∃ e ∈ q.queue, e.node = client ∧ e.id = id := by
  intro u hu client id hfunc
  rw [hqueue]
  rcases List.mem_cons.mp (hpending.mem_iff.mp hu) with rfl | hu
  · exact hsend client id hfunc
  · exact h.sends u hu client id hfunc

/-- a task that does not wait for replies joins the pending ones under a fresh number -/
theorem ProxyInv.add (h : ProxyInv gone p)
    (hpending : q.pending.Perm (t :: p.pending)) (hnode : t.node = p.fresh)
    (hfresh : q.fresh = p.fresh + 1) (hqueue : q.queue = p.queue) (hring : q.ring = p.ring)
    (hlive : q.live = p.live) (hcrashed : q.crashed = p.crashed) (hrecv : t.isRecv = false)
    (hsend : ∀ client id, t.func = .responseSend client id →
      ∃ q ∈ p.queue, q.node = client ∧ q.id = id) : ProxyInv gone q where
  crashed := hcrashed.trans h.crashed
  ids := hqueue ▸ h.ids
  sends := h.add_sends hpending hqueue hsend
  recvs := by
    have hfilter := hpending.filter ProxyTask.isRecv
    rw [List.filter_cons, if_neg (by simp [hrecv])] at hfilter
    rw [hring]
    exact (hfilter.append_left gone).trans h.recvs
  nodes := hring ▸ h.nodes
  socks := hring ▸ h.socks
  tasks := h.add_tasks hpending hnode
  live := by
    rw [hring, hlive]
    exact h.live
  ring_lt := by
    rw [hring, hfresh]
    intro dns hdns
    have hlt := h.ring_lt dns hdns
    omega
  task_lt := h.add_task_lt hpending hnode hfresh

end

theorem pending_addRead (p : Proxy Addr) (fd : Nat) (func : TaskFunc) :
    (addRead p fd func).pending.Perm (⟨p.fresh, fd, func⟩ :: p.pending) := by
  show ((p.read ++ [_]) ++ p.write ++ p.run).Perm _
  rw [List.append_assoc, List.append_assoc, Proxy.pending, List.append_assoc]
  exact List.perm_middle

theorem pending_addWrite (p : Proxy Addr) (fd : Nat) (func : TaskFunc) :
    (addWrite p fd func).pending.Perm (⟨p.fresh, fd, func⟩ :: p.pending) := by
  show (p.read ++ (p.write ++ [_]) ++ p.run).Perm _
  rw [← List.append_assoc, List.append_assoc _ [_]]
  exact List.perm_middle

theorem proxyInv_addRead {fd : Nat} {func : TaskFunc} (h : ProxyInv gone p)
    (hfunc : func = .queryRecv ∨ func = .other) : ProxyInv gone (addRead p fd func) := by
  refine h.add (pending_addRead p fd func) rfl rfl rfl rfl rfl rfl ?_ ?_
  · rcases hfunc with rfl | rfl <;> rfl
  · intro client id heq
    rcases hfunc with rfl | rfl <;> exact nomatch heq

theorem proxyInv_addWrite_query {fd : Nat} (h : ProxyInv gone p) :
    ProxyInv gone (addWrite p fd .querySend) :=
  h.add (pending_addWrite p fd .querySend) rfl rfl rfl rfl rfl rfl rfl fun _ _ heq => nomatch heq

theorem proxyInv_addWrite_send {fd : Nat} {q : QueryQ Addr} (h : ProxyInv gone p) (hq : q ∈ p.queue) :
    ProxyInv gone (addWrite p fd (.responseSend q.node q.id)) := by
  refine h.add (pending_addWrite p fd _) rfl rfl rfl rfl rfl rfl rfl ?_
  intro client id heq
  obtain ⟨rfl, rfl⟩ := TaskFunc.responseSend.inj heq
  exact ⟨q, hq, rfl, rfl⟩

/-! ## queries -/

theorem addQueryQ_distinct {q : Proxy Addr} {id : UInt16} {client : Addr} {s now : Nat} {memory : Bool}
    (h : Keyed.Distinct QueryQ.id p.queue) (hadd : addQueryQ p id client s now memory = some q) :
    Keyed.Distinct QueryQ.id q.queue := by
  unfold addQueryQ at hadd
  split at hadd
  · obtain rfl := Option.some.inj hadd
    exact h
  · rename_i hnone
    split at hadd
    · exact nomatch hadd
    · obtain rfl := Option.some.inj hadd
      exact h.append (Option.not_isSome_iff_eq_none.mp hnone)

theorem proxyInv_addQueryQ {q : Proxy Addr} {id : UInt16} {client : Addr} {s now : Nat} {memory : Bool}
    (h : ProxyInv gone p) (hadd : addQueryQ p id client s now memory = some q) : ProxyInv gone q := by
  have hids := addQueryQ_distinct h.ids hadd
  unfold addQueryQ at hadd
  split at hadd
  · obtain rfl := Option.some.inj hadd
    exact h
  · split at hadd
    · exact nomatch hadd
    · obtain rfl := Option.some.inj hadd
      refine { h with ids := hids, sends := ?_, ring_lt := ?_, task_lt := ?_ }
      · intro t ht client id hfunc
        obtain ⟨q, hq, hsame⟩ := h.sends t ht client id hfunc
        exact ⟨q, List.mem_append_left _ hq, hsame⟩
      · intro dns hdns
        have hlt := h.ring_lt dns hdns
        exact ⟨Nat.lt_succ_of_lt hlt.1, Nat.lt_succ_of_lt hlt.2⟩
      · intro t ht
        exact Nat.lt_succ_of_lt (h.task_lt t ht)

theorem proxyInv_sweep {now : Nat} (h : ProxyInv gone p) (hfits : SweepFits p now) :
    ProxyInv gone (sweepQueryQ p now) := by
  refine { h with ids := ?_, sends := ?_ }
  · exact h.ids.sublist List.filter_sublist
  · intro t ht client id hfunc
    obtain ⟨q, hq, rfl, rfl⟩ := h.sends t ht client id hfunc
    have hlive : now ≤ q.expiration := by
      apply Nat.le_of_not_lt
      intro hexpired
      have hnot := hfits q hq hexpired t ht
      rw [ProxyTask.sendsTo, hfunc] at hnot
      simp at hnot
    exact ⟨q, List.mem_filter.mpr ⟨hq, decide_eq_true hlive⟩, rfl, rfl⟩

theorem proxyInv_setLive {dns : DnsServer Addr} (h : ProxyInv gone p) (hdns : dns ∈ p.ring) :
    ProxyInv gone { p with live := dns.node } :=
  { h with live := ⟨dns, hdns, rfl⟩ }

theorem proxyInv_queryRecv {t : ProxyTask} {io : QueryIo Addr} (h : ProxyInv gone p) :
    ProxyInv gone (queryRecv p t io) := by
  unfold queryRecv
  split
  · exact proxyInv_addRead h (.inl rfl)
  · refine proxyInv_addRead ?_ (.inl rfl)
    unfold acceptQuery
    split
    · exact h
    · rename_i q hadd
      have hq := proxyInv_addQueryQ h hadd
      obtain ⟨dns, hlive, _⟩ := hq.live_some
      rw [hlive]
      exact proxyInv_addWrite_query hq

/-! ## the next server -/

theorem ringNext_mem {ring : List (DnsServer Addr)} {node : Nat} {dns : DnsServer Addr}
    (h : ringNext ring node = some dns) : dns ∈ ring := by
  unfold ringNext at h
  split at h
  · exact nomatch h
  · exact List.mem_of_head? h
  · rename_i hdrop
    obtain rfl := Option.some.inj h
    have hsub : ring.dropWhile (fun dns => dns.node != node) ⊆ ring := (List.dropWhile_sublist _).subset
    rw [hdrop] at hsub
    exact hsub (List.mem_cons_of_mem _ List.mem_cons_self)

theorem ringNext_some {ring : List (DnsServer Addr)} {dns : DnsServer Addr} (h : dns ∈ ring) :
    ∃ next, ringNext ring dns.node = some next := by
  have hne : ring.dropWhile (fun d => d.node != dns.node) ≠ [] := by
    intro hnil
    have hall := List.dropWhile_eq_nil_iff.mp hnil dns h
    simp at hall
  unfold ringNext
  split
  · rename_i hnil
    exact absurd hnil hne
  · cases ring with
    | nil => exact nomatch h
    | cons d rest => exact ⟨d, rfl⟩
  · exact ⟨_, rfl⟩

theorem proxyInv_querySend {result : SendResult} (h : ProxyInv gone p) :
    ProxyInv gone (querySend p result) := by
  unfold querySend
  split
  · obtain ⟨dns, hdns, hlive⟩ := h.live
    obtain ⟨next, hnext⟩ := ringNext_some hdns
    rw [hlive] at hnext
    rw [hnext]
    exact proxyInv_addWrite_query (proxyInv_setLive h (ringNext_mem hnext))
  · exact h

/-! ## replies -/

theorem proxyInv_acceptReply {id : UInt16} (h : ProxyInv gone p) : ProxyInv gone (acceptReply p id) := by
  unfold acceptReply
  split
  · exact h
  · rename_i q hfind
    obtain ⟨hq, rfl⟩ := Keyed.mem_of_find hfind
    exact proxyInv_addWrite_send h hq

theorem acceptReply_live (p : Proxy Addr) (id : UInt16) : (acceptReply p id).live = p.live := by
  unfold acceptReply
  split
  · rfl
  · rfl

/-- the task of the live server has run, and its successor is for the same server -/
theorem proxyInv_readdMyself {t : ProxyTask} (h : ProxyInv [t] p) (hlive : t.func = .responseRecv p.live) :
    ProxyInv [] (readdMyself p) := by
  obtain ⟨dns, hfind, hdns⟩ := h.live_some
  obtain ⟨_, hnode⟩ := Keyed.mem_of_find hfind
  unfold readdMyself
  rw [hfind]
  have ht : t = dns.task := by
    obtain ⟨dns', hdns', htask⟩ := List.mem_map.mp (h.recvs.mem_iff.mp (List.mem_cons_self (a := t)))
    have hfunc : TaskFunc.responseRecv dns'.node = .responseRecv p.live := by
      rw [← hlive, ← htask]
      rfl
    have hsame : dns' = dns := by
      apply List.inj_on_of_nodup_map h.nodes hdns' hdns
      exact (TaskFunc.responseRecv.inj hfunc).trans hnode.symm
    rw [← htask, hsame]
  have hmem : ({ dns with t := p.fresh } : DnsServer Addr)
      ∈ Keyed.replace DnsServer.node p.ring { dns with t := p.fresh } := Keyed.replace_mem hdns rfl
  have hpending := pending_addRead
    { p with ring := Keyed.replace DnsServer.node p.ring { dns with t := p.fresh } } dns.s
    (.responseRecv dns.node)
  exact {
    crashed := h.crashed
    ids := h.ids
    sends := h.add_sends hpending rfl fun _ _ heq => nomatch heq
    recvs := by
      have hrest : (p.pending.filter ProxyTask.isRecv).Perm
          ((Keyed.remove DnsServer.node p.ring dns.node).map DnsServer.task) := by
        have hperm := h.recvs.trans ((h.nodes.perm_cons_remove hdns).map DnsServer.task)
        rw [ht] at hperm
        exact hperm.cons_inv
      have hreplace := (h.nodes.replace_perm hdns
        (x := { dns with t := p.fresh }) rfl).map DnsServer.task
      exact (hpending.filter _).trans ((hrest.cons _).trans hreplace.symm)
    nodes := h.nodes.replace _
    socks := by
      have hsame := h.nodes.map_replace (f := DnsServer.s) (x := { dns with t := p.fresh }) hdns rfl rfl
      show ((Keyed.replace DnsServer.node p.ring _).map DnsServer.s).Nodup
      rw [hsame]
      exact h.socks
    tasks := h.add_tasks hpending rfl
    live := ⟨_, hmem, hnode⟩
    ring_lt := by
      intro d hd
      rcases Keyed.mem_replace hd with rfl | ⟨hd, _⟩
      · have hlt := h.ring_lt dns hdns
        exact ⟨Nat.lt_succ_of_lt hlt.1, Nat.lt_succ_of_lt hlt.2⟩
      · have hlt := h.ring_lt d hd
        exact ⟨Nat.lt_succ_of_lt hlt.1, Nat.lt_succ_of_lt hlt.2⟩
    task_lt := h.add_task_lt hpending rfl rfl }

theorem proxyInv_responseRecv {t : ProxyTask} {reply : Option UInt16} (h : ProxyInv [t] p)
    (hlive : t.func = .responseRecv p.live) : ProxyInv [] (responseRecv p reply) := by
  unfold responseRecv
  split
  · exact proxyInv_readdMyself h hlive
  · rename_i id
    refine proxyInv_readdMyself (proxyInv_acceptReply h) ?_
    rw [acceptReply_live]
    exact hlive

/-! ## changes of the ring -/

theorem proxyInv_nsAdd {sa : Addr} {socket : Bool} (h : ProxyInv [] p) : ProxyInv [] (nsAdd p sa socket) := by
  unfold nsAdd
  split
  · exact h
  · split
    · exact h
    · have hpending : ((p.read ++ [(⟨p.fresh, p.fresh, .responseRecv p.fresh⟩ : ProxyTask)]) ++ p.write ++ p.run).Perm
          (⟨p.fresh, p.fresh, .responseRecv p.fresh⟩ :: p.pending) :=
        pending_addRead p p.fresh (.responseRecv p.fresh)
      have hrecvs : (p.pending.filter ProxyTask.isRecv).Perm (p.ring.map DnsServer.task) := h.recvs
      have hnone : ∀ f : DnsServer Addr → Nat, (∀ dns ∈ p.ring, f dns < p.fresh) →
          Keyed.find f p.ring p.fresh = none := by
        intro f hlt
        refine Keyed.find_eq_none.mpr ?_
        intro dns hdns
        exact Nat.ne_of_lt (hlt dns hdns)
      exact {
        crashed := h.crashed
        ids := h.ids
        sends := h.add_sends hpending rfl fun _ _ heq => nomatch heq
        recvs := by
          show (List.filter _ _).Perm ((p.ring ++ [_]).map DnsServer.task)
          rw [List.map_append]
          refine (hpending.filter _).trans ?_
          exact (hrecvs.cons _).trans (List.perm_append_singleton _ _).symm
        nodes := h.nodes.append (hnone _ fun dns hdns => (h.ring_lt dns hdns).1)
        socks := h.socks.append (hnone _ fun dns hdns => (h.ring_lt dns hdns).2)
        tasks := h.add_tasks hpending rfl
        live := ⟨_, List.mem_append_right _ (List.mem_singleton_self _), rfl⟩
        ring_lt := by
          intro dns hdns
          rcases List.mem_append.mp hdns with hdns | hdns
          · have hlt := h.ring_lt dns hdns
            exact ⟨Nat.lt_succ_of_lt hlt.1, Nat.lt_succ_of_lt hlt.2⟩
          · obtain rfl := List.mem_singleton.mp hdns
            exact ⟨Nat.lt_succ_self _, Nat.lt_succ_self _⟩
        task_lt := h.add_task_lt hpending rfl rfl }

theorem ringNext_ne {ring : List (DnsServer Addr)} {node : Nat} {dns : DnsServer Addr}
    (hd : Keyed.Distinct DnsServer.node ring) (hlen : 2 ≤ ring.length)
    (h : ringNext ring node = some dns) : dns.node ≠ node := by
  have hsplit := List.takeWhile_append_dropWhile (p := fun d : DnsServer Addr => d.node != node) (l := ring)
  unfold ringNext at h
  split at h
  · exact nomatch h
  · rename_i last hdrop
    rw [hdrop] at hsplit
    cases htake : ring.takeWhile (fun d => d.node != node) with
    | nil =>
      rw [htake] at hsplit
      rw [← hsplit] at hlen
      simp at hlen
    | cons first rest =>
      rw [htake] at hsplit
      rw [← hsplit] at h
      obtain rfl : first = dns := Option.some.inj h
      have hmem : first ∈ ring.takeWhile (fun d => d.node != node) := htake ▸ List.mem_cons_self
      have hne := List.mem_takeWhile_imp hmem
      exact bne_iff_ne.mp hne
  · rename_i here next rest hdrop
    obtain rfl := Option.some.inj h
    have hhere : here.node = node := by
      have hhead := List.head?_dropWhile_not (fun d : DnsServer Addr => d.node != node) ring
      rw [hdrop] at hhead
      simpa using hhead
    rw [hdrop] at hsplit
    have hsub : (here :: next :: rest).Sublist ring := hsplit ▸ List.sublist_append_right _ _
    have hnodup := List.nodup_cons.mp (hd.sublist hsub)
    intro hsame
    exact hnodup.1 (List.mem_map.mpr ⟨next, List.mem_cons_self, hsame.trans hhere.symm⟩)

/-- the task of a server that has it in the read list -/
theorem ProxyInv.pending_remove {dns : DnsServer Addr} (h : ProxyInv [] p) (hdns : dns ∈ p.ring)
    (hread : ∃ u ∈ p.read, u.node = dns.t) :
    p.pending.Perm (dns.task :: (Keyed.remove ProxyTask.node p.read dns.t ++ p.write ++ p.run)) := by
  have htask : dns.task ∈ p.pending := by
    have hmem := h.recvs.mem_iff.mpr (List.mem_map_of_mem hdns)
    exact (List.mem_filter.mp hmem).1
  have hother : ∀ u ∈ p.write ++ p.run, u.node ≠ dns.t := by
    intro u hu hsame
    obtain ⟨v, hv, hvt⟩ := hread
    have hd : Keyed.Distinct ProxyTask.node (p.read ++ (p.write ++ p.run)) := by
      rw [← List.append_assoc]
      exact h.tasks
    unfold Keyed.Distinct at hd
    rw [List.map_append, List.nodup_append] at hd
    exact hd.2.2 _ (List.mem_map_of_mem hv) _ (List.mem_map_of_mem hu) (hvt.trans hsame.symm)
  have hremove : Keyed.remove ProxyTask.node p.pending dns.t
      = Keyed.remove ProxyTask.node p.read dns.t ++ p.write ++ p.run := by
    unfold Keyed.remove Proxy.pending
    rw [List.append_assoc, List.filter_append, List.append_assoc]
    congr 1
    refine List.filter_eq_self.mpr ?_
    intro u hu
    exact bne_iff_ne.mpr (hother u hu)
  have hperm := h.tasks.perm_cons_remove htask
  rwa [show dns.task.node = dns.t from rfl, hremove] at hperm

theorem proxyInv_delete {dns : DnsServer Addr} {next : Nat} (h : ProxyInv [] p) (hdns : dns ∈ p.ring)
    (hread : ∃ u ∈ p.read, u.node = dns.t)
    (hnext : ∃ d ∈ Keyed.remove DnsServer.node p.ring dns.node, d.node = next) :
    ProxyInv [] { p with
      ring := Keyed.remove DnsServer.node p.ring dns.node
      live := next
      read := Keyed.remove ProxyTask.node p.read dns.t } := by
  have hpending := h.pending_remove hdns hread
  have hsub : ∀ u ∈ Keyed.remove ProxyTask.node p.read dns.t ++ p.write ++ p.run, u ∈ p.pending := by
    intro u hu
    exact hpending.mem_iff.mpr (List.mem_cons_of_mem _ hu)
  exact {
    crashed := h.crashed
    ids := h.ids
    sends := fun u hu => h.sends u (hsub u hu)
    recvs := by
      have hfilter := (hpending.filter ProxyTask.isRecv).symm.trans h.recvs
      rw [List.filter_cons, if_pos (task_isRecv dns)] at hfilter
      exact (hfilter.trans ((h.nodes.perm_cons_remove hdns).map DnsServer.task)).cons_inv
    nodes := h.nodes.remove _
    socks := h.socks.sublist List.filter_sublist
    tasks := (List.nodup_cons.mp (h.tasks.perm hpending)).2
    live := hnext
    ring_lt := fun d hd => h.ring_lt d (Keyed.mem_remove hd).1
    task_lt := fun u hu => h.task_lt u (hsub u hu) }

theorem proxyInv_nsDelete {sa : Addr} (h : ProxyInv [] p)
    (hfits : DeleteFits p (.delete sa)) : ProxyInv [] (nsDelete p sa) := by
  unfold nsDelete
  split
  · exact h
  · rename_i dns hfind
    have hdns := (Keyed.mem_of_find hfind).1
    unfold dnslDel
    split
    · rename_i hdel
      exact h
    · rename_i q hdel
      split at hdel
      · cases hdel
      · rename_i hlen
        obtain rfl := Option.some.inj hdel
        have hlen : 2 ≤ p.ring.length := by omega
        have hread := hfits dns hfind hlen
        have hany : p.read.any (fun t => t.node == dns.t) = true := by
          obtain ⟨u, hu, hsame⟩ := hread
          exact List.any_eq_true.mpr ⟨u, hu, beq_iff_eq.mpr hsame⟩
        unfold taskListDel
        rw [if_pos hany]
        refine proxyInv_delete h hdns hread ?_
        split
        · obtain ⟨next, hnext⟩ := ringNext_some hdns
          rw [hnext]
          exact ⟨next, Keyed.remove_mem (ringNext_mem hnext) (ringNext_ne h.nodes hlen hnext), rfl⟩
        · rename_i hlive
          obtain ⟨d, hd, hnode⟩ := h.live
          refine ⟨d, Keyed.remove_mem hd ?_, hnode⟩
          rw [hnode]
          exact hlive

theorem proxyInv_nsChange {sa : Addr} (h : ProxyInv gone p) : ProxyInv gone (nsChange p sa) := by
  unfold nsChange
  split
  · exact h
  · rename_i dns hfind
    exact proxyInv_setLive h (Keyed.mem_of_find hfind).1

theorem proxyInv_shellTasks {t : ProxyTask} {io : TaskIo Addr} (h : ProxyInv gone p) :
    ProxyInv gone (shellTasks p t io) := by
  have hagain : ProxyInv gone (if io.again then addRead p t.fd .other else p) := by
    split
    · exact proxyInv_addRead h (.inr rfl)
    · exact h
  unfold shellTasks
  dsimp only
  split
  · exact proxyInv_addRead hagain (.inr rfl)
  · exact hagain

/-! ## the loop -/

theorem proxyInv_take {t : ProxyTask} {rest : List ProxyTask} (h : ProxyInv [] p)
    (hrun : p.run = t :: rest) :
    ProxyInv (if t.isRecv then [t] else []) { p with run := rest } := by
  have hpending : p.pending.Perm (t :: (p.read ++ p.write ++ rest)) := by
    rw [Proxy.pending, hrun]
    exact List.perm_middle
  have hsub : ∀ u ∈ p.read ++ p.write ++ rest, u ∈ p.pending := by
    intro u hu
    exact hpending.mem_iff.mpr (List.mem_cons_of_mem _ hu)
  refine { h with sends := ?_, recvs := ?_, tasks := ?_, task_lt := ?_ }
  · exact fun u hu => h.sends u (hsub u hu)
  · have hfilter := (hpending.filter ProxyTask.isRecv).symm.trans h.recvs
    rw [List.filter_cons] at hfilter
    split
    · rename_i hrecv
      rwa [if_pos hrecv] at hfilter
    · rename_i hrecv
      rwa [if_neg hrecv] at hfilter
  · exact (List.nodup_cons.mp (h.tasks.perm hpending)).2
  · exact fun u hu => h.task_lt u (hsub u hu)

theorem proxyInv_runTask {t : ProxyTask} {rest : List ProxyTask} {io : TaskIo Addr} (h : ProxyInv [] p)
    (hrun : p.run = t :: rest) (hfits : TaskFits p t io) :
    ProxyInv [] (runTask { p with run := rest } t io) := by
  have htake := proxyInv_take h hrun
  unfold TaskFits at hfits
  unfold runTask
  unfold ProxyTask.isRecv at htake
  cases hfunc : t.func <;> simp only [hfunc] at htake hfits ⊢
  case queryRecv => exact proxyInv_queryRecv htake
  case querySend => exact proxyInv_querySend htake
  case responseRecv dns => exact proxyInv_responseRecv htake (hfunc.trans (by rw [hfits]))
  case responseSend client id => exact htake
  case other =>
    apply proxyInv_shellTasks
    cases hcommand : io.command with
    | none => exact htake
    | add sa socket => exact proxyInv_nsAdd htake
    | delete sa =>
      rw [hcommand] at hfits
      exact proxyInv_nsDelete htake hfits
    | change sa => exact proxyInv_nsChange htake

/-- the tasks that are ready change places -/
theorem pending_taskListSort (p : Proxy Addr) (r w : List Nat) :
    (taskListSort p r w).pending.Perm p.pending := by
  have hread := List.filter_append_perm (fun t : ProxyTask => decide (t.fd ∈ r)) p.read
  have hwrite := List.filter_append_perm (fun t : ProxyTask => decide (t.fd ∈ w)) p.write
  refine List.perm_iff_count.mpr ?_
  intro t
  have hr := hread.count_eq t
  have hw := hwrite.count_eq t
  unfold taskListSort Proxy.pending
  simp only [List.count_append] at hr hw ⊢
  omega

theorem proxyInv_taskListSort {r w : List Nat} (h : ProxyInv [] p) : ProxyInv [] (taskListSort p r w) := by
  have hpending := pending_taskListSort p r w
  refine { h with sends := ?_, recvs := ?_, tasks := ?_, task_lt := ?_ }
  · exact fun t ht => h.sends t (hpending.mem_iff.mp ht)
  · exact (hpending.filter _).trans h.recvs
  · exact h.tasks.perm hpending.symm
  · exact fun t ht => h.task_lt t (hpending.mem_iff.mp ht)

theorem proxyFits_step (p : Proxy Addr) (e : ProxyEvent Addr) (h : ProxyInv [] p) (hfits : ProxyFits p e) :
    ProxyInv [] (p.step e) := by
  unfold Proxy.step
  rw [if_neg (by simp [h.crashed])]
  cases e with
  | select r w =>
    unfold Proxy.event
    dsimp only
    split
    · exact h
    · exact proxyInv_taskListSort h
  | timeout now =>
    unfold Proxy.event
    dsimp only
    split
    · exact h
    · rename_i hrunning
      exact proxyInv_sweep h (hfits (eq_false_of_ne_true hrunning))
  | task io =>
    unfold Proxy.event
    dsimp only
    split
    · exact h
    · rename_i t rest hrun
      exact proxyInv_runTask h hrun (hfits t (hrun ▸ rfl))
  | finish now =>
    unfold Proxy.event
    dsimp only
    split
    · rename_i hdone
      obtain ⟨hrunning, hempty⟩ := Bool.and_eq_true_iff.mp hdone
      have hsweep : SweepFits p now := hfits hrunning (List.isEmpty_iff.mp hempty)
      exact proxyInv_sweep (p := { p with running := false }) { h with } hsweep
    · exact h

end

/-! ## the start -/

theorem configured_node (servers : List Addr) :
    ∀ n, (configured n servers).map DnsServer.node = List.range' n servers.length := by
  induction servers with
  | nil => exact fun _ => rfl
  | cons sa rest ih =>
    intro n
    show n :: (configured (n + 1) rest).map DnsServer.node = _
    rw [ih, List.length_cons, List.range'_succ]

/-- a server of the configuration has one number for itself, its socket and its task -/
theorem configured_same (servers : List Addr) :
    ∀ n, ∀ dns ∈ configured n servers, dns.s = dns.node ∧ dns.t = dns.node := by
  induction servers with
  | nil => exact fun _ _ h => nomatch h
  | cons sa rest ih =>
    intro n dns hdns
    rcases List.mem_cons.mp hdns with rfl | hdns
    · exact ⟨rfl, rfl⟩
    · exact ih (n + 1) dns hdns

theorem resolverTasks_node (k : Nat) : ∀ n, (resolverTasks n k).map ProxyTask.node = List.range' n k := by
  induction k with
  | zero => exact fun _ => rfl
  | succ k ih =>
    intro n
    show n :: (resolverTasks (n + 1) k).map ProxyTask.node = _
    rw [ih, List.range'_succ]

theorem resolverTasks_func (k : Nat) : ∀ n, ∀ t ∈ resolverTasks n k, t.func = .queryRecv := by
  induction k with
  | zero => exact fun _ _ h => nomatch h
  | succ k ih =>
    intro n t ht
    rcases List.mem_cons.mp ht with rfl | ht
    · rfl
    · exact ih (n + 1) t ht

section
variable (servers : List Addr) (resolvers : Nat)

theorem start_pending : (Proxy.start servers resolvers).pending = (Proxy.start servers resolvers).read := by
  show _ ++ [] ++ [] = _
  rw [List.append_nil, List.append_nil]

theorem start_task_nodes : (Proxy.start servers resolvers).pending.map ProxyTask.node
    = List.range' 0 (servers.length + resolvers + 1) := by
  have hservers : ((configured 0 servers).map DnsServer.task).map ProxyTask.node
      = List.range' 0 servers.length := by
    rw [List.map_map, ← configured_node]
    apply List.map_congr_left
    intro dns hdns
    exact (configured_same servers 0 dns hdns).2
  have hjoin : List.range' 0 servers.length ++ List.range' servers.length resolvers
      = List.range' 0 (servers.length + resolvers) := by
    simpa using List.range'_append_1 (s := 0) (m := servers.length) (n := resolvers)
  rw [start_pending]
  show ((configured 0 servers).map DnsServer.task ++ resolverTasks servers.length resolvers ++
    [_]).map ProxyTask.node = _
  rw [List.map_append, List.map_append, hservers, resolverTasks_node, hjoin, List.range'_concat]
  simp

theorem start_recvs : (Proxy.start servers resolvers).pending.filter ProxyTask.isRecv
    = (configured 0 servers).map DnsServer.task := by
  have hservers : ((configured 0 servers).map DnsServer.task).filter ProxyTask.isRecv
      = (configured 0 servers).map DnsServer.task := by
    refine List.filter_eq_self.mpr ?_
    intro t ht
    obtain ⟨dns, _, rfl⟩ := List.mem_map.mp ht
    exact task_isRecv dns
  have hresolvers : (resolverTasks servers.length resolvers).filter ProxyTask.isRecv = [] := by
    refine List.filter_eq_nil_iff.mpr ?_
    intro t ht
    rw [ProxyTask.isRecv, resolverTasks_func _ _ t ht]
    exact Bool.false_ne_true
  rw [start_pending]
  show ((configured 0 servers).map DnsServer.task ++ resolverTasks servers.length resolvers ++
    [_]).filter ProxyTask.isRecv = _
  rw [List.filter_append, List.filter_append, hservers, hresolvers]
  exact (List.append_nil _).trans (List.append_nil _)

/-- no reply is on its way at the start -/
theorem start_func : ∀ t ∈ (Proxy.start servers resolvers).pending, ∀ client id,
    t.func ≠ .responseSend client id := by
  intro t ht client id hfunc
  rw [start_pending] at ht
  rcases List.mem_append.mp ht with ht | ht
  · rcases List.mem_append.mp ht with ht | ht
    · obtain ⟨dns, _, rfl⟩ := List.mem_map.mp ht
      exact nomatch hfunc
    · rw [resolverTasks_func _ _ t ht] at hfunc
      exact nomatch hfunc
  · obtain rfl := List.mem_singleton.mp ht
    exact nomatch hfunc

theorem configured_lt {dns : DnsServer Addr} (h : dns ∈ configured 0 servers) :
    dns.node < servers.length := by
  have hmem : dns.node ∈ List.range' 0 servers.length := by
    rw [← configured_node]
    exact List.mem_map_of_mem h
  have hrange := List.mem_range'_1.mp hmem
  omega

theorem proxyInv_start (h : servers ≠ []) : ProxyInv [] (Proxy.start servers resolvers) := by
  have hnodes : Keyed.Distinct DnsServer.node (configured 0 servers) := by
    rw [Keyed.Distinct, configured_node]
    exact List.nodup_range'
  have hsocks : (configured 0 servers).map DnsServer.s = (configured 0 servers).map DnsServer.node := by
    apply List.map_congr_left
    intro dns hdns
    exact (configured_same servers 0 dns hdns).1
  exact {
    crashed := rfl
    ids := List.nodup_nil
    sends := fun t ht client id hfunc => absurd hfunc (start_func servers resolvers t ht client id)
    recvs := List.Perm.of_eq (start_recvs servers resolvers)
    nodes := hnodes
    socks := by
      rw [Keyed.Distinct]
      show ((configured 0 servers).map DnsServer.s).Nodup
      rw [hsocks]
      exact hnodes
    tasks := by
      rw [Keyed.Distinct, start_task_nodes]
      exact List.nodup_range'
    live := by
      cases servers with
      | nil => exact absurd rfl h
      | cons sa rest => exact ⟨_, List.mem_cons_self, rfl⟩
    ring_lt := by
      intro dns hdns
      have hlt := configured_lt servers hdns
      have hsame := (configured_same servers 0 dns hdns).1
      show dns.node < servers.length + resolvers + 1 ∧ dns.s < servers.length + resolvers + 1
      omega
    task_lt := by
      intro t ht
      have hmem : t.node ∈ List.range' 0 (servers.length + resolvers + 1) := by
        rw [← start_task_nodes]
        exact List.mem_map_of_mem ht
      have hrange := List.mem_range'_1.mp hmem
      show t.node < servers.length + resolvers + 1
      omega }

end

/-- in a run whose steps meet the condition the stores agree in every state -/
theorem proxy_stores_agree (servers : List Addr) (resolvers : Nat) (h : servers ≠ [])
    (es : List (ProxyEvent Addr))
    (hfits : Run.Meets Proxy.step ProxyFits (.start servers resolvers) es) :
    ∀ p ∈ Run.states Proxy.step (.start servers resolvers) es, StoresAgree p := by
  intro p hp
  exact (Run.states_inv proxyFits_step es _ (proxyInv_start servers resolvers h) hfits p hp).agree

/-! ## the ids of the queue -/

section
variable (p : Proxy Addr)

theorem querySend_queue (result : SendResult) : (querySend p result).queue = p.queue := by
  unfold querySend
  split
  · split <;> rfl
  · rfl

theorem acceptReply_queue (id : UInt16) : (acceptReply p id).queue = p.queue := by
  unfold acceptReply
  split <;> rfl

theorem readdMyself_queue : (readdMyself p).queue = p.queue := by
  unfold readdMyself
  split <;> rfl

theorem responseRecv_queue (reply : Option UInt16) : (responseRecv p reply).queue = p.queue := by
  unfold responseRecv
  split
  · exact readdMyself_queue p
  · exact (readdMyself_queue _).trans (acceptReply_queue p _)

theorem taskListDel_queue (node : Nat) : (taskListDel p node).queue = p.queue := by
  unfold taskListDel
  split <;> rfl

theorem nsDelete_queue (sa : Addr) : (nsDelete p sa).queue = p.queue := by
  unfold nsDelete
  split
  · rfl
  · split
    · rfl
    · rename_i q hdel
      rw [taskListDel_queue]
      unfold dnslDel at hdel
      split at hdel
      · cases hdel
      · obtain rfl := Option.some.inj hdel
        rfl

theorem nsCommand_queue (command : NsCommand Addr) : (nsCommand p command).queue = p.queue := by
  cases command with
  | none => rfl
  | add sa socket =>
    show (nsAdd p sa socket).queue = p.queue
    unfold nsAdd
    split
    · rfl
    · split <;> rfl
  | delete sa => exact nsDelete_queue p sa
  | change sa =>
    show (nsChange p sa).queue = p.queue
    unfold nsChange
    split <;> rfl

theorem shellTasks_queue (t : ProxyTask) (io : TaskIo Addr) : (shellTasks p t io).queue = p.queue := by
  unfold shellTasks
  dsimp only
  split
  · show (if io.again then _ else _ : Proxy Addr).queue = _
    split <;> rfl
  · split <;> rfl

variable {p}

theorem queryRecv_distinct {t : ProxyTask} {io : QueryIo Addr} (h : Keyed.Distinct QueryQ.id p.queue) :
    Keyed.Distinct QueryQ.id (queryRecv p t io).queue := by
  unfold queryRecv
  split
  · exact h
  · show Keyed.Distinct QueryQ.id (acceptQuery p t _ _ io).queue
    unfold acceptQuery
    split
    · exact h
    · rename_i q hadd
      have hids := addQueryQ_distinct h hadd
      split <;> exact hids

theorem runTask_distinct {t : ProxyTask} {io : TaskIo Addr} (h : Keyed.Distinct QueryQ.id p.queue) :
    Keyed.Distinct QueryQ.id (runTask p t io).queue := by
  unfold runTask
  split
  · exact queryRecv_distinct h
  · rw [querySend_queue]
    exact h
  · rw [responseRecv_queue]
    exact h
  · exact h
  · rw [shellTasks_queue, nsCommand_queue]
    exact h

theorem step_distinct (e : ProxyEvent Addr) (h : Keyed.Distinct QueryQ.id p.queue) :
    Keyed.Distinct QueryQ.id (p.step e).queue := by
  unfold Proxy.step
  split
  · exact h
  · cases e with
    | select r w =>
      unfold Proxy.event
      dsimp only
      split <;> exact h
    | timeout now =>
      unfold Proxy.event
      dsimp only
      split
      · exact h
      · exact h.sublist List.filter_sublist
    | task io =>
      unfold Proxy.event
      dsimp only
      split
      · exact h
      · exact runTask_distinct h
    | finish now =>
      unfold Proxy.event
      dsimp only
      split
      · exact h.sublist List.filter_sublist
      · exact h

end

/-- with or without the condition, the ids of the queue are distinct -/
theorem query_ids_distinct (servers : List Addr) (resolvers : Nat) (es : List (ProxyEvent Addr)) :
    ∀ p ∈ Run.states Proxy.step (.start servers resolvers) es, Keyed.Distinct QueryQ.id p.queue := by
  have hstep : ∀ (p : Proxy Addr) (e : ProxyEvent Addr), Keyed.Distinct QueryQ.id p.queue →
      Keyed.Distinct QueryQ.id (p.step e).queue := fun _ e h => step_distinct e h
  exact Run.states_inv_all hstep es List.nodup_nil

/-- what a handler meets that gets nothing -/
def quietIo : TaskIo Nat := ⟨⟨none, 0, true⟩, .whole, none, .none, true, false⟩

/-- a query of the client 99 goes to the first of two servers, and its reply comes back -/
def proxiedQuery : List (ProxyEvent Nat) :=
  [.select [2] [], .task { quietIo with query := ⟨some (7, 99), 100, true⟩ }, .finish 100,
    .select [] [0], .task quietIo, .finish 101,
    .select [0] [], .task { quietIo with reply := some 7 }, .finish 102]

theorem proxy_stores_agree_query :
    (proxiedQuery.foldl Proxy.step (.start [10, 20] 1)).write = [⟨7, 2, .responseSend 4 7⟩] ∧
      StoresAgree (proxiedQuery.foldl Proxy.step (.start [10, 20] 1)) :=
  ⟨by decide, proxy_stores_agree [10, 20] 1 (by decide) proxiedQuery (by decide) _
    (Run.foldl_mem_states _ _)⟩

/-- a packet on the socket of the server that is not live: its task is added again for the live one, which
has two tasks then -/
theorem proxy_stores_disagree :
    ¬ ∀ (servers : List Nat) (resolvers : Nat), servers ≠ [] → ∀ es : List (ProxyEvent Nat),
      ∀ p ∈ Run.states Proxy.step (.start servers resolvers) es, StoresAgree p := by
  intro h
  have hagree := h [10, 20] 1 (by decide) [.select [1] [], .task quietIo] _ (Run.foldl_mem_states _ _)
  have hnone := hagree.recvs ⟨1, 20, 1, 1⟩ (by decide)
  exact absurd hnone (by decide)

/-- a reply that comes after its query has expired and before the sweep: the query is removed, and the task
that is to send the reply points to what was its client -/
theorem late_reply_dangles :
    ¬ StoresAgree ((proxiedQuery.dropLast ++ [ProxyEvent.finish 161]).foldl Proxy.step (.start [10, 20] 1)) := by
  intro h
  obtain ⟨q, hq, _⟩ := h.sends ⟨7, 2, .responseSend 4 7⟩ (by decide) 4 7 rfl
  exact absurd (List.length_pos_of_mem hq) (by decide)

end Spmd
