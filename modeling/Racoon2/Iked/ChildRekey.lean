import Racoon2.Iked.AddressPool
import Racoon2.Iked.Sa

/-!
# Rekeying a Child SA

One Child SA and the Child SAs made to replace it: the rekeys we start (`ikev2_rekey_childsa`) and
the rekeys we answer (`ikev2_createchild_responder_recv`, `ikev2_create_child_responder`), any
number of them at a time.  Both move the leases and the address lists to the new Child SA before
they know what becomes of it.

In the address pool the old Child SA has number 0.

* `ChildRekey`            the old Child SA, its marks, and the new ones;
* `childRekeyStep`        every way a rekey goes on or ends, in both roles;
* `AddrPool.Owned`        a record is on the list of one Child SA;
* `failed_rekey_keeps`    what the old Child SA has when no rekey came to anything.
-/

set_option linter.unusedVariables false

namespace Ikev2

/-! ## the records -/

/-- how far a new Child SA is -/
inductive NewStage where
  /-- the kernel, a worker or the peer owes an answer -/
  | pending
  /-- nobody does, and nothing ended it -/
  | lost
  | expired
  | mature
  deriving DecidableEq, Repr

/-- a Child SA made to replace the old one -/
structure NewChild where
  id : Nat
  isInitiator : Bool
  stage : NewStage
  messageId : Nat
  addkePending : Bool
  srclist : List IpAddr
  dstlist : List IpAddr
  /-- something of the old one was moved to it -/
  took : Bool
  deriving DecidableEq, Repr

structure ChildRekey where
  /-- the state of the IKE SA -/
  parent : State
  /-- the old Child SA is MATURE -/
  alive : Bool
  deleteSent : Bool
  rekeyInprogress : Bool
  rekeyDuplicate : Bool
  rekeyDuplicateMessageId : Nat
  srclist : List IpAddr
  dstlist : List IpAddr
  pool : AddrPool
  news : List NewChild
  /-- `child_id` of `ikev2_create_child_sa` -/
  nextId : Nat
  /-- the kernel SAs of a new Child SA were installed -/
  installed : Bool

/-- the old Child SA before its first rekey, after these calls of the pool and `others` more Child
SAs -/
def ChildRekey.start (ranges : List PoolRange) (calls : List PoolCall)
    (srclist dstlist : List IpAddr) (others : Nat) : ChildRekey :=
  { parent := .established, alive := true, deleteSent := false, rekeyInprogress := false,
    rekeyDuplicate := false, rekeyDuplicateMessageId := 0, srclist, dstlist
    pool := calls.foldl poolStep (AddrPool.start ranges), news := [], nextId := others + 1
    installed := false }

section
variable (w : ChildRekey)

/-- the old Child SA has something to move -/
def ChildRekey.owns : Bool :=
  !((w.pool.held 0).isEmpty && w.srclist.isEmpty && w.dstlist.isEmpty)

def ChildRekey.setChild (id : Nat) (f : NewChild → NewChild) : ChildRekey :=
  { w with news := w.news.map fun c => if c.id = id then f c else c }

/-- the new Child SA with number `id`, while it is negotiated -/
def ChildRekey.pending (id : Nat) : Option NewChild :=
  w.news.find? fun c => c.id == id && c.stage == .pending

/-- `ikev2_create_child_sa`, and the addresses of the old Child SA move to the new one; `mem` says
which records `rc_addrpool_move` has memory for -/
def ChildRekey.moveTo (isInitiator : Bool) (messageId : Nat) (stage : NewStage)
    (mem : List Bool) : ChildRekey :=
  { w with
    pool := w.pool.move w.nextId 0 mem
    srclist := []
    dstlist := []
    news := ⟨w.nextId, isInitiator, stage, messageId, false, w.srclist, w.dstlist, w.owns⟩ :: w.news
    nextId := w.nextId + 1 }

/-! ## the rekey we start -/

inductive StartOutcome where
  /-- `fail` and `fail_nomem`, both before the move -/
  | failed
  | started (mem : List Bool)

/-- `ikev2_rekey_childsa` -/
def rekeyChildsa : StartOutcome → ChildRekey
  | o =>
    if w.parent ≠ .established then w
    else match o with
      | .failed => { w with rekeyInprogress := false }
      | .started mem => w.moveTo true 0 .pending mem

/-- `ikev2_expire_sa` and `ikev2_child_expire_callback` -/
def expireSa (o : StartOutcome) : ChildRekey :=
  if w.alive = false then w
  else if w.rekeyInprogress then w
  else rekeyChildsa { w with rekeyInprogress := true } o

/-- `ikev2_child_abort`: only a Child SA of ours has a `preceding_spi`, which finds the old one
while that is MATURE -/
def ChildRekey.childAbort (id : Nat) : ChildRekey :=
  match w.pending id with
  | none => w
  | some c =>
    { w.setChild id fun c => { c with stage := .expired } with
      rekeyInprogress := w.rekeyInprogress && !(c.isInitiator && w.alive) }

/-- `ikev2_initiator_rekey_finalize`, as far as the old Child SA goes -/
def rekeyFinalize : ChildRekey :=
  if w.alive && !w.rekeyDuplicate then { w with deleteSent := true } else w

/-- `ikev2_update_child` gives the new Child SA up, and returns to
`ikev2_createchild_initiator_recv`, which does not learn of it -/
def updateFailed (id : Nat) : ChildRekey :=
  match w.pending id with
  | none => w
  | some c => if c.isInitiator then rekeyFinalize (w.childAbort id) else w

/-! ## the rekey of the peer -/

inductive RequestEnd where
  /-- refused before the old Child SA is marked -/
  | refused
  /-- dropped or refused between the marks and `ikev2_create_child_responder`: the KE payload, no
  memory for the nonce -/
  | dropped
  /-- `ikev2_create_child_responder` fails before the move: the SA payload, memory -/
  | failedEarly
  /-- it fails after the move: the traffic selectors, the mode, the proposals, the KE payload, the
  worker, the policy -/
  | failedLate (mem : List Bool)
  /-- the worker or the kernel is asked -/
  | accepted (mem : List Bool)

/-- RFC 9370 s2.2.4: our CREATE_CHILD_SA is done and its IKE_FOLLOWUP_KE is not -/
def ChildRekey.followupPending : Bool := w.news.any fun c => c.isInitiator && c.addkePending

/-- the marks of a request for the old Child SA -/
def ChildRekey.mark (messageId : Nat) : ChildRekey :=
  { w with
    rekeyInprogress := true
    rekeyDuplicate := w.rekeyDuplicate || w.rekeyInprogress
    rekeyDuplicateMessageId := if w.rekeyInprogress then messageId else w.rekeyDuplicateMessageId }

/-- the label `fail` of `ikev2_createchild_responder_recv` -/
def ChildRekey.unmark : ChildRekey := { w with rekeyInprogress := false, rekeyDuplicate := false }

/-- from the marks on -/
def createChildResponder (messageId : Nat) : RequestEnd → ChildRekey
  | .refused => w
  | .dropped => w.mark messageId
  | .failedEarly => (w.mark messageId).unmark
  | .failedLate mem => ((w.mark messageId).moveTo false messageId .expired mem).unmark
  | .accepted mem => (w.mark messageId).moveTo false messageId .pending mem

/-- `ikev2_createchild_responder_recv` for a request that names the old Child SA -/
def createchildResponderRecv (messageId : Nat) (o : RequestEnd) : ChildRekey :=
  -- NO_ADDITIONAL_SAS, CHILD_SA_NOT_FOUND, TEMPORARY_FAILURE
  if w.parent = .dying then w
  else if w.alive = false then w
  else if w.followupPending then w
  else createChildResponder w messageId o

/-! ## events -/

inductive ChildRekeyEvent where
  /-- the lifetime of the old Child SA -/
  | expire (o : StartOutcome)
  | request (messageId : Nat) (o : RequestEnd)
  /-- CREATE_CHILD_SA is done, and additional key exchanges follow -/
  | followup (id : Nat)
  /-- `ikev2_child_abort`, or the state EXPIRED that a failed answer of ours comes to -/
  | abort (id : Nat)
  /-- a return that neither goes on nor aborts -/
  | forget (id : Nat)
  | updateFailed (id : Nat)
  | install (id : Nat)
  /-- `ikev2_create_child_responder_cont` does not look at the result of `ikev2_add_ipsec_sa` -/
  | installFailed (id : Nat)
  /-- the periodic task destroys an EXPIRED Child SA -/
  | reap (id : Nat)
  /-- the pool is asked for another Child SA -/
  | client (call : PoolCall)
  /-- another Child SA is made -/
  | create
  | setParent (state : State)
  /-- the old Child SA ends for another reason than a rekey -/
  | close

/-- a Child SA that has nothing to do with the old one -/
def ChildRekey.foreign (c : Nat) : Bool :=
  decide (c ≠ 0) && decide (c < w.nextId) && w.news.all fun d => d.id != c

/-- the record is on the list of none of ours -/
def ChildRekey.foreignRecord (r : Nat) : Bool :=
  !(w.pool.held 0).contains r && w.news.all fun d => !(w.pool.held d.id).contains r

def ChildRekey.foreignCall : PoolCall → Bool
  | .allocAny child _ _ => w.foreign child
  | .assign child _ _ => w.foreign child
  | .assignIp6intf child _ _ => w.foreign child
  | .move dest src _ => w.foreign dest && w.foreign src
  | .release r => w.foreignRecord r
  | .releaseAll child => w.foreign child

/-- an answer of the kernel, a worker or the peer for a new Child SA -/
def ChildRekey.answered (id : Nat) (f : NewChild → NewChild) : ChildRekey :=
  match w.pending id with
  | none => w
  | some _ => w.setChild id f

/-- the kernel SAs are in place -/
def ChildRekey.install (id : Nat) : ChildRekey :=
  match w.pending id with
  | none => w
  | some c =>
    let w' := { w.setChild id fun c => { c with stage := .mature, addkePending := false } with
      installed := true }
    if c.isInitiator then rekeyFinalize w' else w'

/-- `ikev2_destroy_child_sa` -/
def ChildRekey.destroy (id : Nat) : ChildRekey :=
  if w.news.any fun c => c.id == id && c.stage == .expired then
    { w with
      pool := (w.pool.held id).foldl AddrPool.release w.pool
      news := w.news.filter fun c => c.id != id }
  else w

def ChildRekey.close : ChildRekey :=
  { w with alive := false, pool := (w.pool.held 0).foldl AddrPool.release w.pool }

def childRekeyStep : ChildRekeyEvent → ChildRekey
  | .expire o => expireSa w o
  | .request messageId o => createchildResponderRecv w messageId o
  | .followup id => w.answered id fun c => { c with addkePending := true }
  | .abort id => w.childAbort id
  | .forget id => w.answered id fun c => { c with stage := .lost }
  | .updateFailed id => updateFailed w id
  | .install id => w.install id
  | .installFailed id => w.answered id fun c => { c with stage := .mature }
  | .reap id => w.destroy id
  | .client call => if w.foreignCall call then { w with pool := poolStep w.pool call } else w
  | .create => { w with nextId := w.nextId + 1 }
  | .setParent state => { w with parent := state }
  | .close => w.close

end

/-! ## whose record it is -/

/-- the record with address `r` -/
def AddrPool.leaseOf (p : AddrPool) (r : Nat) : Option Lease := p.leases.find? fun a => a.ref == r

/-- the records on the list of a Child SA -/
def AddrPool.leasesOf (p : AddrPool) (c : Nat) : List Lease := (p.held c).filterMap p.leaseOf

/-- a record is on the list of one Child SA, and no later record has its address -/
structure AddrPool.Owned (p : AddrPool) : Prop where
  apart : ∀ c c' r, r ∈ p.held c → r ∈ p.held c' → c = c'
  fresh : ∀ c, ∀ r ∈ p.held c, r < p.next

/-- the Child SA has the records it had -/
structure AddrPool.Keeps (p p' : AddrPool) (c : Nat) : Prop where
  held : p'.held c = p.held c
  lease : ∀ r ∈ p.held c, p'.leaseOf r = p.leaseOf r

section
variable {p p' p'' : AddrPool} {c : Nat}

theorem AddrPool.Keeps.refl (p : AddrPool) (c : Nat) : p.Keeps p c := ⟨rfl, fun _ _ => rfl⟩

theorem AddrPool.Keeps.trans (h : p.Keeps p' c) (h' : p'.Keeps p'' c) : p.Keeps p'' c := by
  refine ⟨h'.held.trans h.held, fun r hr => ?_⟩
  rw [h'.lease r (by rw [h.held]; exact hr), h.lease r hr]

theorem AddrPool.Keeps.leasesOf (h : p.Keeps p' c) : p'.leasesOf c = p.leasesOf c := by
  unfold AddrPool.leasesOf
  rw [h.held]
  exact List.filterMap_congr h.lease

/-- a record that a Child SA has is not free -/
theorem AddrPool.leased_of_leasesOf {a : Lease} (h : a ∈ p.leasesOf c) :
    Leased p.leases a.af a.address := by
  obtain ⟨r, _, hr⟩ := List.mem_filterMap.mp h
  exact ⟨a, List.mem_of_find?_eq_some hr, rfl, rfl⟩

/-! ### a lease -/

theorem AddrPool.Owned.give (h : p.Owned) (child : Nat) (mem : Bool) (af : Family)
    (ans : PoolAnswer) : (p.give child mem af ans).Owned := by
  unfold AddrPool.give
  split
  · split
    · constructor
      · intro c c' r hc hc'
        have hnew : ∀ d, r ∈ Function.update p.held child (p.next :: p.held child) d →
            r ∈ p.held d ∨ d = child ∧ r = p.next := by
          intro d hd
          by_cases hdc : d = child
          · subst hdc
            rw [Function.update_self] at hd
            rcases List.mem_cons.mp hd with rfl | hd
            · exact Or.inr ⟨rfl, rfl⟩
            · exact Or.inl hd
          · rw [Function.update_of_ne hdc] at hd
            exact Or.inl hd
        rcases hnew c hc with hold | ⟨hdc, hr⟩
        · rcases hnew c' hc' with hold' | ⟨_, hr'⟩
          · exact h.apart c c' r hold hold'
          · have := h.fresh c r hold
            omega
        · rcases hnew c' hc' with hold' | ⟨hdc', _⟩
          · have := h.fresh c' r hold'
            omega
          · rw [hdc, hdc']
      · intro c r hr
        show r < p.next + 1
        by_cases hcc : c = child
        · subst hcc
          change r ∈ Function.update p.held c (p.next :: p.held c) c at hr
          rw [Function.update_self] at hr
          rcases List.mem_cons.mp hr with rfl | hr
          · omega
          · have := h.fresh c r hr
            omega
        · change r ∈ Function.update p.held child (p.next :: p.held child) c at hr
          rw [Function.update_of_ne hcc] at hr
          have := h.fresh c r hr
          omega
    · exact h
  · exact h
  · exact ⟨h.apart, h.fresh⟩

theorem AddrPool.Owned.give_keeps (h : p.Owned) {child : Nat} (hne : c ≠ child) (mem : Bool)
    (af : Family) (ans : PoolAnswer) : p.Keeps (p.give child mem af ans) c := by
  unfold AddrPool.give
  split
  · split
    · refine ⟨Function.update_of_ne hne _ _, fun r hr => ?_⟩
      have hlt := h.fresh c r hr
      apply List.find?_cons_of_neg
      simp
      omega
    · exact AddrPool.Keeps.refl p c
  · exact AddrPool.Keeps.refl p c
  · exact ⟨rfl, fun _ _ => rfl⟩

/-! ### a release -/

theorem AddrPool.Owned.release (h : p.Owned) (r : Nat) : (p.release r).Owned :=
  ⟨fun c c' x hc hc' => h.apart c c' x (List.mem_of_mem_filter hc) (List.mem_of_mem_filter hc'),
    fun c x hx => h.fresh c x (List.mem_of_mem_filter hx)⟩

theorem find?_filter_ref {leases : List Lease} {x r : Nat} (hne : x ≠ r) :
    (leases.filter fun a => a.ref != r).find? (fun a => a.ref == x)
      = leases.find? fun a => a.ref == x := by
  rw [List.find?_filter]
  congr 1
  funext a
  by_cases ha : a.ref = x
  · simp [ha, hne]
  · simp [ha]

theorem AddrPool.release_keeps (p : AddrPool) {r : Nat} (hr : r ∉ p.held c) :
    p.Keeps (p.release r) c := by
  constructor
  · apply List.filter_eq_self.mpr
    intro x hx
    have hne : x ≠ r := fun he => hr (he ▸ hx)
    simpa using hne
  · intro x hx
    exact find?_filter_ref fun he => hr (he ▸ hx)

theorem AddrPool.Owned.releaseAll (rs : List Nat) : ∀ p : AddrPool, p.Owned →
    (rs.foldl AddrPool.release p).Owned := by
  induction rs with
  | nil => exact fun p h => h
  | cons r rs ih => exact fun p h => ih _ (h.release r)

theorem AddrPool.releaseAll_keeps (rs : List Nat) : ∀ p : AddrPool,
    (∀ r ∈ rs, r ∉ p.held c) → p.Keeps (rs.foldl AddrPool.release p) c := by
  induction rs with
  | nil => exact fun p _ => AddrPool.Keeps.refl p c
  | cons r rs ih =>
    intro p h
    have hone := p.release_keeps (h r List.mem_cons_self)
    refine hone.trans (ih (p.release r) fun x hx => ?_)
    rw [hone.held]
    exact h x (List.mem_cons_of_mem r hx)

/-- the list of another Child SA is released -/
theorem AddrPool.Owned.releaseAll_keeps (h : p.Owned) {child : Nat} (hne : c ≠ child) :
    p.Keeps ((p.held child).foldl AddrPool.release p) c :=
  AddrPool.releaseAll_keeps _ p fun r hr hc => hne (h.apart c child r hc hr)

/-! ### a move -/

/-- what the loop leaves of other records, and where the new ones come from -/
theorem moveLoop_frame (rs : List Nat) : ∀ (mem : List Bool) (leases : List Lease) (next : Nat)
    (dest : List Nat),
    let out := moveLoop mem rs leases next dest
    next ≤ out.2.1 ∧ (∀ x ∈ out.2.2, x ∈ dest ∨ next ≤ x ∧ x < out.2.1)
      ∧ ∀ x, x ∉ rs → x < next → out.1.find? (fun a => a.ref == x)
          = leases.find? fun a => a.ref == x := by
  induction rs with
  | nil => exact fun mem leases next dest => ⟨le_refl _, fun x hx => Or.inl hx, fun _ _ _ => rfl⟩
  | cons r rs ih =>
    intro mem leases next dest
    unfold moveLoop
    cases hfind : leases.find? (fun a => a.ref == r) with
    | none =>
      obtain ⟨hle, hdest, hfr⟩ := ih mem.tail leases next dest
      exact ⟨hle, hdest, fun x hx => hfr x fun hmem => hx (List.mem_cons_of_mem r hmem)⟩
    | some a =>
      dsimp only
      split
      · obtain ⟨hle, hdest, hfr⟩ := ih mem.tail
          (({ a with ref := next } :: leases).filter fun b => b.ref != r) (next + 1) (next :: dest)
        refine ⟨by omega, fun x hx => ?_, fun x hx hlt => ?_⟩
        · rcases hdest x hx with hmem | hmem
          · rcases List.mem_cons.mp hmem with rfl | hmem
            · exact Or.inr ⟨le_refl _, by omega⟩
            · exact Or.inl hmem
          · exact Or.inr (by omega)
        · rw [hfr x (fun hmem => hx (List.mem_cons_of_mem r hmem)) (by omega),
            find?_filter_ref fun he => hx (List.mem_cons.mpr (Or.inl he))]
          apply List.find?_cons_of_neg
          simp
          omega
      · obtain ⟨hle, hdest, hfr⟩ := ih mem.tail (leases.filter fun b => b.ref != r) next dest
        refine ⟨hle, hdest, fun x hx hlt => ?_⟩
        rw [hfr x (fun hmem => hx (List.mem_cons_of_mem r hmem)) hlt,
          find?_filter_ref fun he => hx (List.mem_cons.mpr (Or.inl he))]

/-- the lists of the Child SAs after a move -/
theorem AddrPool.move_held {dest src : Nat} {mem : List Bool} {x : Nat}
    (h : x ∈ (p.move dest src mem).held c) :
    (x ∈ p.held c ∧ c ≠ src) ∨ (c = dest ∧ p.next ≤ x ∧ x < (p.move dest src mem).next) := by
  obtain ⟨hle, hdest, _⟩ := moveLoop_frame (p.held src) mem p.leases p.next
    (Function.update p.held src [] dest)
  have hsrc : x ∈ Function.update p.held src [] c → x ∈ p.held c ∧ c ≠ src := by
    intro hx
    by_cases hc : c = src
    · subst hc
      rw [Function.update_self] at hx
      exact nomatch hx
    · rw [Function.update_of_ne hc] at hx
      exact ⟨hx, hc⟩
  change x ∈ Function.update (Function.update p.held src []) dest _ c at h
  by_cases hc : c = dest
  · subst hc
    rw [Function.update_self] at h
    rcases hdest x h with h | h
    · exact Or.inl (hsrc h)
    · exact Or.inr ⟨rfl, h⟩
  · rw [Function.update_of_ne hc] at h
    exact Or.inl (hsrc h)

theorem AddrPool.Owned.move (h : p.Owned) (dest src : Nat) (mem : List Bool) :
    (p.move dest src mem).Owned := by
  have hle : p.next ≤ (p.move dest src mem).next :=
    (moveLoop_frame (p.held src) mem p.leases p.next (Function.update p.held src [] dest)).1
  constructor
  · intro c c' r hc hc'
    rcases AddrPool.move_held hc with ⟨hold, _⟩ | ⟨hd, hge, _⟩
    · rcases AddrPool.move_held hc' with ⟨hold', _⟩ | ⟨_, hge, _⟩
      · exact h.apart c c' r hold hold'
      · have := h.fresh c r hold
        omega
    · rcases AddrPool.move_held hc' with ⟨hold', _⟩ | ⟨hd', _, _⟩
      · have := h.fresh c' r hold'
        omega
      · rw [hd, hd']
  · intro c r hr
    rcases AddrPool.move_held hr with ⟨hr, _⟩ | ⟨_, _, hlt⟩
    · have := h.fresh c r hr
      omega
    · exact hlt

theorem AddrPool.Owned.move_keeps (h : p.Owned) {dest src : Nat} (hdest : c ≠ dest)
    (hsrc : c ≠ src) (mem : List Bool) : p.Keeps (p.move dest src mem) c := by
  obtain ⟨_, _, hfr⟩ := moveLoop_frame (p.held src) mem p.leases p.next
    (Function.update p.held src [] dest)
  constructor
  · show Function.update (Function.update p.held src []) dest _ c = _
    rw [Function.update_of_ne hdest, Function.update_of_ne hsrc]
  · exact fun r hr => hfr r (fun hmem => hsrc (h.apart c src r hr hmem)) (h.fresh c r hr)

/-- an empty list is moved -/
theorem AddrPool.move_empty {dest src : Nat} (hne : src ≠ dest) (mem : List Bool)
    (hempty : p.held src = []) : p.Keeps (p.move dest src mem) src := by
  constructor
  · show Function.update (Function.update p.held src []) dest _ src = _
    rw [Function.update_of_ne hne, Function.update_self, hempty]
  · intro r hr
    rw [hempty] at hr
    exact nomatch hr

/-! ### any call -/

theorem poolStep_owned (call : PoolCall) (h : p.Owned) : (poolStep p call).Owned := by
  unfold poolStep
  split
  · exact h
  · cases call with
    | allocAny child af mem => exact h.give _ _ _ _
    | assign child addr mem => exact h.give _ _ _ _
    | assignIp6intf child addr mem => exact h.give _ _ _ _
    | move dest src mem => exact h.move _ _ _
    | release r => exact h.release r
    | releaseAll child => exact AddrPool.Owned.releaseAll _ p h

/-- the Child SAs a call is about -/
def PoolCall.spares (p : AddrPool) (c : Nat) : PoolCall → Prop
  | .allocAny child _ _ => c ≠ child
  | .assign child _ _ => c ≠ child
  | .assignIp6intf child _ _ => c ≠ child
  | .move dest src _ => c ≠ dest ∧ c ≠ src
  | .release r => r ∉ p.held c
  | .releaseAll child => c ≠ child

theorem poolStep_keeps (call : PoolCall) (h : p.Owned) (hspares : call.spares p c) :
    p.Keeps (poolStep p call) c := by
  unfold poolStep
  split
  · exact AddrPool.Keeps.refl p c
  · cases call with
    | allocAny child af mem => exact h.give_keeps hspares _ _ _
    | assign child addr mem => exact h.give_keeps hspares _ _ _
    | assignIp6intf child addr mem => exact h.give_keeps hspares _ _ _
    | move dest src mem => exact h.move_keeps hspares.1 hspares.2 _
    | release r => exact p.release_keeps hspares
    | releaseAll child => exact h.releaseAll_keeps hspares

/-- the pools that calls come to -/
theorem pool_owned (ranges : List PoolRange) (calls : List PoolCall) :
    (calls.foldl poolStep (AddrPool.start ranges)).Owned := by
  have hstart : (AddrPool.start ranges).Owned := by
    constructor
    · intro c c' r hc _
      exact nomatch hc
    · intro c r hr
      exact nomatch hr
  have hrun : ∀ (calls : List PoolCall) (p : AddrPool), p.Owned → (calls.foldl poolStep p).Owned := by
    intro calls
    induction calls with
    | nil => exact fun p h => h
    | cons call calls ih => exact fun p h => ih _ (poolStep_owned call h)
  exact hrun calls _ hstart

end

/-! ## a rekey that comes to nothing -/

section
variable (w : ChildRekey)

/-- a new Child SA is in place, or the old one is gone -/
def ChildRekey.over : Bool := w.installed || !w.alive

/-- a request for the old Child SA gets as far as the marks -/
def ChildRekey.answers : Bool := decide (w.parent ≠ .dying) && w.alive && !w.followupPending

/-- nothing was moved to the new Child SA -/
def ChildRekey.bare (id : Nat) : Bool := (w.pending id).all fun c => !c.took

/-- a rekey fails only if nothing was moved, and not in `ikev2_update_child` -/
def leaseOk : ChildRekeyEvent → Prop
  | .request _ (.failedLate _) => w.answers = true → w.over = true ∨ w.owns = false
  | .abort id => w.over = true ∨ w.bare id = true
  | .forget id => w.over = true ∨ w.bare id = true
  | .installFailed id => w.over = true ∨ w.bare id = true
  | .updateFailed id => w.over = true ∨ w.bare id = true ∧ w.rekeyDuplicate = true
      ∨ (w.pending id).all (fun c => !c.isInitiator) = true
  | _ => True

instance leaseOk.decidable : ∀ ev, Decidable (leaseOk w ev)
  | .request _ (.failedLate _) => inferInstanceAs (Decidable (_ = _ → _ ∨ _))
  | .request _ .refused => inferInstanceAs (Decidable True)
  | .request _ .dropped => inferInstanceAs (Decidable True)
  | .request _ .failedEarly => inferInstanceAs (Decidable True)
  | .request _ (.accepted _) => inferInstanceAs (Decidable True)
  | .abort _ => inferInstanceAs (Decidable (_ ∨ _))
  | .forget _ => inferInstanceAs (Decidable (_ ∨ _))
  | .installFailed _ => inferInstanceAs (Decidable (_ ∨ _))
  | .updateFailed _ => inferInstanceAs (Decidable (_ ∨ _ ∧ _ ∨ _))
  | .expire _ => inferInstanceAs (Decidable True)
  | .followup _ => inferInstanceAs (Decidable True)
  | .install _ => inferInstanceAs (Decidable True)
  | .reap _ => inferInstanceAs (Decidable True)
  | .client _ => inferInstanceAs (Decidable True)
  | .create => inferInstanceAs (Decidable True)
  | .setParent _ => inferInstanceAs (Decidable True)
  | .close => inferInstanceAs (Decidable True)

end

/-- the old Child SA has what it had in `w₀` -/
structure ChildRekey.Same (w₀ w : ChildRekey) : Prop where
  pool : w₀.pool.Keeps w.pool 0
  srclist : w.srclist = w₀.srclist
  dstlist : w.dstlist = w₀.dstlist

/-- the new Child SAs are distinct -/
structure ChildRekey.Booked (w : ChildRekey) : Prop where
  owned : w.pool.Owned
  ids : (w.news.map NewChild.id).Nodup
  lt : ∀ c ∈ w.news, 0 < c.id ∧ c.id < w.nextId
  pos : 0 < w.nextId

/-- the addresses are with the old Child SA or with one under way -/
def ChildRekey.Kept (w₀ w : ChildRekey) : Prop :=
  w.over = true ∨ w.deleteSent = false
    ∧ (w₀.Same w ∨ ∃ c ∈ w.news, c.stage = .pending ∧ c.took = true)

section
variable {w₀ w w' : ChildRekey}

/-- the lifetime ends: nothing happens, or a rekey is marked and begun -/
theorem expireSa_cases (w : ChildRekey) (o : StartOutcome) : expireSa w o = w ∨
    (w.rekeyInprogress = false
      ∧ expireSa w o = rekeyChildsa { w with rekeyInprogress := true } o) := by
  unfold expireSa
  split
  · exact .inl rfl
  · split
    · exact .inl rfl
    · next hidle => exact .inr ⟨Bool.eq_false_iff.mpr hidle, rfl⟩

/-- a request is turned down before the marks, or answered -/
theorem createchildResponderRecv_cases (w : ChildRekey) (messageId : Nat) (o : RequestEnd) :
    createchildResponderRecv w messageId o = w ∨ (w.answers = true
      ∧ createchildResponderRecv w messageId o = createChildResponder w messageId o) := by
  unfold createchildResponderRecv
  split
  · exact .inl rfl
  · next hdying =>
    split
    · exact .inl rfl
    · next halive =>
      split
      · exact .inl rfl
      · next hfollow =>
        refine .inr ⟨?_, rfl⟩
        simp only [ChildRekey.answers, Bool.and_eq_true, decide_eq_true_eq]
        exact ⟨⟨hdying, by simpa using halive⟩, by simpa using hfollow⟩

theorem ChildRekey.pending_spec {id : Nat} {c : NewChild} (h : w.pending id = some c) :
    c ∈ w.news ∧ c.id = id ∧ c.stage = .pending := by
  refine ⟨List.mem_of_find?_eq_some h, ?_⟩
  have := List.find?_some h
  simpa using this

theorem ChildRekey.Booked.unique (h : w.Booked) {c d : NewChild} (hc : c ∈ w.news)
    (hd : d ∈ w.news) (hid : c.id = d.id) : c = d :=
  List.inj_on_of_nodup_map h.ids hc hd hid

theorem ChildRekey.not_owns (h : w.owns = false) :
    w.pool.held 0 = [] ∧ w.srclist = [] ∧ w.dstlist = [] := by
  simpa [ChildRekey.owns, and_assoc] using h

/-! ### the new Child SAs are distinct -/

theorem ChildRekey.Booked.setChild (h : w.Booked) (id : Nat) {f : NewChild → NewChild}
    (hf : ∀ c, (f c).id = c.id) : (w.setChild id f).Booked := by
  have hid : ∀ c, (if c.id = id then f c else c).id = c.id := by
    intro c
    split
    · exact hf c
    · rfl
  constructor
  · exact h.owned
  · show (List.map NewChild.id (List.map _ w.news)).Nodup
    rw [List.map_map]
    convert h.ids using 1
    exact List.map_congr_left fun c _ => hid c
  · intro c hc
    obtain ⟨d, hd, rfl⟩ := List.mem_map.mp hc
    rw [hid d]
    exact h.lt d hd
  · exact h.pos

theorem ChildRekey.Booked.answered (h : w.Booked) (id : Nat) {f : NewChild → NewChild}
    (hf : ∀ c, (f c).id = c.id) : (w.answered id f).Booked := by
  unfold ChildRekey.answered
  split
  · exact h
  · exact h.setChild id hf

theorem ChildRekey.Booked.moveTo (h : w.Booked) (isInitiator : Bool) (messageId : Nat)
    (stage : NewStage) (mem : List Bool) : (w.moveTo isInitiator messageId stage mem).Booked := by
  constructor
  · exact h.owned.move _ _ _
  · show (w.nextId :: w.news.map NewChild.id).Nodup
    rw [List.nodup_cons]
    refine ⟨fun hmem => ?_, h.ids⟩
    obtain ⟨c, hc, hid⟩ := List.mem_map.mp hmem
    have := (h.lt c hc).2
    omega
  · intro c hc
    have hpos := h.pos
    rcases List.mem_cons.mp hc with rfl | hc
    · exact ⟨hpos, Nat.lt_succ_self _⟩
    · have := h.lt c hc
      exact ⟨this.1, Nat.lt_succ_of_lt this.2⟩
  · exact Nat.succ_pos _

/-- the marks, the flags and the state of the IKE SA are free -/
theorem ChildRekey.Booked.congr (h : w.Booked) (hpool : w'.pool = w.pool) (hnews : w'.news = w.news)
    (hnext : w'.nextId = w.nextId) : w'.Booked :=
  ⟨hpool ▸ h.owned, hnews ▸ h.ids, by rw [hnews, hnext]; exact h.lt, hnext ▸ h.pos⟩

theorem rekeyFinalize_booked (h : w.Booked) : (rekeyFinalize w).Booked := by
  unfold rekeyFinalize
  split
  · exact h.congr rfl rfl rfl
  · exact h

theorem ChildRekey.Booked.childAbort (h : w.Booked) (id : Nat) : (w.childAbort id).Booked := by
  unfold ChildRekey.childAbort
  split
  · exact h
  · have hset : (w.setChild id fun c => { c with stage := .expired }).Booked :=
      h.setChild id fun _ => rfl
    exact hset.congr rfl rfl rfl

theorem ChildRekey.Booked.install (h : w.Booked) (id : Nat) : (w.install id).Booked := by
  unfold ChildRekey.install
  split
  · exact h
  · have hset : (w.setChild id fun c => { c with stage := .mature, addkePending := false }).Booked :=
      h.setChild id fun _ => rfl
    dsimp only
    split
    · exact rekeyFinalize_booked (hset.congr rfl rfl rfl)
    · exact hset.congr rfl rfl rfl

theorem ChildRekey.Booked.destroy (h : w.Booked) (id : Nat) : (w.destroy id).Booked := by
  unfold ChildRekey.destroy
  split
  · have hsub := List.filter_sublist (p := fun c : NewChild => c.id != id) (l := w.news)
    exact ⟨AddrPool.Owned.releaseAll _ _ h.owned, h.ids.sublist (hsub.map _),
      fun d hd => h.lt d (hsub.subset hd), h.pos⟩
  · exact h

theorem childRekeyStep_booked (ev : ChildRekeyEvent) (h : w.Booked) :
    (childRekeyStep w ev).Booked := by
  have hmark : ∀ messageId, (w.mark messageId).Booked := fun messageId => h.congr rfl rfl rfl
  cases ev with
  | expire o =>
    show (expireSa w o).Booked
    have hon : ChildRekey.Booked { w with rekeyInprogress := true } := h.congr rfl rfl rfl
    rcases expireSa_cases w o with heq | ⟨-, heq⟩
    · rw [heq]
      exact h
    · rw [heq]
      unfold rekeyChildsa
      split
      · exact hon
      · cases o with
        | failed => exact h.congr rfl rfl rfl
        | started mem => exact hon.moveTo _ _ _ _
  | request messageId o =>
    show (createchildResponderRecv w messageId o).Booked
    rcases createchildResponderRecv_cases w messageId o with heq | ⟨-, heq⟩
    · rw [heq]
      exact h
    · rw [heq]
      cases o with
      | refused => exact h
      | dropped => exact hmark messageId
      | failedEarly => exact (hmark messageId).congr rfl rfl rfl
      | failedLate mem => exact ((hmark messageId).moveTo _ _ _ _).congr rfl rfl rfl
      | accepted mem => exact (hmark messageId).moveTo _ _ _ _
  | followup id => exact h.answered id fun _ => rfl
  | abort id => exact h.childAbort id
  | forget id => exact h.answered id fun _ => rfl
  | updateFailed id =>
    show (updateFailed w id).Booked
    unfold updateFailed
    split
    · exact h
    · split
      · exact rekeyFinalize_booked (h.childAbort id)
      · exact h
  | install id => exact h.install id
  | installFailed id => exact h.answered id fun _ => rfl
  | reap id => exact h.destroy id
  | client call =>
    show ChildRekey.Booked (if w.foreignCall call then { w with pool := poolStep w.pool call } else w)
    split
    · exact ⟨poolStep_owned call h.owned, h.ids, h.lt, h.pos⟩
    · exact h
  | create =>
    exact ⟨h.owned, h.ids, fun c hc => ⟨(h.lt c hc).1, Nat.lt_succ_of_lt (h.lt c hc).2⟩,
      Nat.succ_pos _⟩
  | setParent state => exact h.congr rfl rfl rfl
  | close => exact ⟨AddrPool.Owned.releaseAll _ _ h.owned, h.ids, h.lt, h.pos⟩

theorem ChildRekey.start_booked (ranges : List PoolRange) (calls : List PoolCall)
    (srclist dstlist : List IpAddr) (others : Nat) :
    (ChildRekey.start ranges calls srclist dstlist others).Booked :=
  ⟨pool_owned ranges calls, List.nodup_nil, fun c hc => (nomatch hc), Nat.succ_pos _⟩

/-! ### where the addresses are -/

/-- the marks and the state of the IKE SA say nothing about the addresses -/
theorem ChildRekey.Kept.congr (h : w₀.Kept w) (hover : w'.over = w.over)
    (hsent : w'.deleteSent = w.deleteSent) (hpool : w'.pool = w.pool)
    (hsrc : w'.srclist = w.srclist) (hdst : w'.dstlist = w.dstlist) (hnews : w'.news = w.news) :
    w₀.Kept w' := by
  rcases h with h | ⟨hs, hsame | hnew⟩
  · exact Or.inl (hover.trans h)
  · refine Or.inr ⟨hsent.trans hs, Or.inl ⟨?_, hsrc.trans hsame.srclist, hdst.trans hsame.dstlist⟩⟩
    rw [hpool]
    exact hsame.pool
  · exact Or.inr ⟨hsent.trans hs, Or.inr (hnews ▸ hnew)⟩

/-- a move to a Child SA that goes on, or a move of nothing -/
theorem ChildRekey.Kept.moveTo (h : w₀.Kept w) (hb : w.Booked) (isInitiator : Bool)
    (messageId : Nat) {stage : NewStage}
    (hstage : w.over = true ∨ stage = .pending ∨ w.owns = false) (mem : List Bool) :
    w₀.Kept (w.moveTo isInitiator messageId stage mem) := by
  rcases h with hover | ⟨hsent, hsame | ⟨c, hc, hstage, htook⟩⟩
  · exact Or.inl hover
  · by_cases howns : w.owns = true
    · rcases hstage with hover | rfl | hnone
      · exact Or.inl hover
      · exact Or.inr ⟨hsent, Or.inr ⟨_, List.mem_cons_self, rfl, howns⟩⟩
      · rw [howns] at hnone
        cases hnone
    · obtain ⟨hheld, hsrc, hdst⟩ := ChildRekey.not_owns (by simpa using howns)
      refine Or.inr ⟨hsent, Or.inl ⟨?_, ?_, ?_⟩⟩
      · exact hsame.pool.trans (AddrPool.move_empty (by have := hb.pos; omega) _ hheld)
      · show [] = _
        rw [← hsame.srclist, hsrc]
      · show [] = _
        rw [← hsame.dstlist, hdst]
  · exact Or.inr ⟨hsent, Or.inr ⟨c, List.mem_cons_of_mem _ hc, hstage, htook⟩⟩

/-- a new Child SA goes on -/
theorem ChildRekey.Kept.goesOn (h : w₀.Kept w) (id : Nat) {f : NewChild → NewChild}
    (hf : ∀ c, (f c).stage = c.stage ∧ (f c).took = c.took) : w₀.Kept (w.setChild id f) := by
  rcases h with hover | ⟨hsent, hsame | ⟨c, hc, hstage, htook⟩⟩
  · exact Or.inl hover
  · exact Or.inr ⟨hsent, Or.inl ⟨hsame.pool, hsame.srclist, hsame.dstlist⟩⟩
  · refine Or.inr ⟨hsent, Or.inr ⟨_, List.mem_map.mpr ⟨c, hc, rfl⟩, ?_⟩⟩
    split
    · exact ⟨(hf c).1.trans hstage, (hf c).2.trans htook⟩
    · exact ⟨hstage, htook⟩

/-- a new Child SA that has nothing of the old one ends -/
theorem ChildRekey.Kept.ends (h : w₀.Kept w) (hb : w.Booked) {id : Nat} {c : NewChild}
    (hpend : w.pending id = some c) (hbare : w.over = true ∨ w.bare id = true)
    (f : NewChild → NewChild) : w₀.Kept (w.setChild id f) := by
  obtain ⟨hc, hid, hstage⟩ := ChildRekey.pending_spec hpend
  rcases h with hover | ⟨hsent, hsame | ⟨d, hd, hdstage, hdtook⟩⟩
  · exact Or.inl hover
  · exact Or.inr ⟨hsent, Or.inl ⟨hsame.pool, hsame.srclist, hsame.dstlist⟩⟩
  · rcases hbare with hover | hbare
    · exact Or.inl hover
    · have hne : d.id ≠ id := by
        intro hdid
        rw [ChildRekey.bare, hpend, hb.unique hc hd (hid.trans hdid.symm)] at hbare
        simp [hdtook] at hbare
      exact Or.inr ⟨hsent, Or.inr ⟨d, List.mem_map.mpr ⟨d, hd, if_neg hne⟩, hdstage, hdtook⟩⟩

theorem ChildRekey.Kept.childAbort (h : w₀.Kept w) (hb : w.Booked) {id : Nat}
    (hbare : w.over = true ∨ w.bare id = true) : w₀.Kept (w.childAbort id) := by
  unfold ChildRekey.childAbort
  split
  · exact h
  · next c hpend =>
    exact (h.ends hb hpend hbare fun c => { c with stage := .expired }).congr rfl rfl rfl rfl rfl rfl

theorem ChildRekey.Kept.answered (h : w₀.Kept w) (hb : w.Booked) {id : Nat}
    (hbare : w.over = true ∨ w.bare id = true) (f : NewChild → NewChild) :
    w₀.Kept (w.answered id f) := by
  unfold ChildRekey.answered
  split
  · exact h
  · next c hpend => exact h.ends hb hpend hbare f

theorem ChildRekey.Kept.mark (h : w₀.Kept w) (messageId : Nat) : w₀.Kept (w.mark messageId) :=
  h.congr rfl rfl rfl rfl rfl rfl

theorem ChildRekey.Kept.unmark (h : w₀.Kept w) : w₀.Kept w.unmark := h.congr rfl rfl rfl rfl rfl rfl

/-! ### the events -/

theorem expireSa_kept (o : StartOutcome) (h : w₀.Kept w) (hb : w.Booked) :
    w₀.Kept (expireSa w o) := by
  have hmark : w₀.Kept { w with rekeyInprogress := true } := h.congr rfl rfl rfl rfl rfl rfl
  rcases expireSa_cases w o with heq | ⟨-, heq⟩
  · rw [heq]
    exact h
  · rw [heq]
    unfold rekeyChildsa
    split
    · exact hmark
    · cases o with
      | failed => exact h.congr rfl rfl rfl rfl rfl rfl
      | started mem =>
        exact hmark.moveTo (hb.congr rfl rfl rfl) true 0 (Or.inr (Or.inl rfl)) mem

theorem createchildResponderRecv_kept (messageId : Nat) (o : RequestEnd) (h : w₀.Kept w)
    (hb : w.Booked) (hok : leaseOk w (.request messageId o)) :
    w₀.Kept (createchildResponderRecv w messageId o) := by
  have hmark := h.mark messageId
  have hbmark : (w.mark messageId).Booked := hb.congr rfl rfl rfl
  rcases createchildResponderRecv_cases w messageId o with heq | ⟨hans, heq⟩
  · rw [heq]
    exact h
  · rw [heq]
    cases o with
    | refused => exact h
    | dropped => exact hmark
    | failedEarly => exact hmark.unmark
    | failedLate mem =>
      exact (hmark.moveTo hbmark false messageId ((hok hans).imp id Or.inr) mem).unmark
    | accepted mem => exact hmark.moveTo hbmark false messageId (Or.inr (Or.inl rfl)) mem

theorem ChildRekey.childAbort_same (w : ChildRekey) (id : Nat) :
    (w.childAbort id).over = w.over ∧ (w.childAbort id).rekeyDuplicate = w.rekeyDuplicate := by
  unfold ChildRekey.childAbort
  split <;> exact ⟨rfl, rfl⟩

theorem updateFailed_kept (id : Nat) (h : w₀.Kept w) (hb : w.Booked)
    (hok : leaseOk w (.updateFailed id)) : w₀.Kept (updateFailed w id) := by
  unfold updateFailed
  split
  · exact h
  · next c hpend =>
    split
    · next hours =>
      obtain ⟨hsover, hsdup⟩ := w.childAbort_same id
      unfold rekeyFinalize
      rcases hok with hover | ⟨hbare, hdup⟩ | hpeer
      · split
        · exact Or.inl (hsover.trans hover)
        · exact Or.inl (hsover.trans hover)
      · rw [if_neg (by rw [hsdup, hdup]; simp)]
        exact h.childAbort hb (Or.inr hbare)
      · rw [hpend] at hpeer
        simp [hours] at hpeer
    · exact h

/-- a new Child SA is in place -/
theorem ChildRekey.install_over {id : Nat} {c : NewChild} (hpend : w.pending id = some c) :
    (w.install id).over = true := by
  unfold ChildRekey.install
  rw [hpend]
  dsimp only
  split
  · unfold rekeyFinalize
    split <;> rfl
  · rfl

/-- another Child SA's addresses are asked for or given back -/
theorem ChildRekey.Kept.elsewhere (h : w₀.Kept w) {p : AddrPool} (hkeeps : w.pool.Keeps p 0) :
    w₀.Kept { w with pool := p } := by
  rcases h with hover | ⟨hsent, hsame | hnew⟩
  · exact Or.inl hover
  · exact Or.inr ⟨hsent, Or.inl ⟨hsame.pool.trans hkeeps, hsame.srclist, hsame.dstlist⟩⟩
  · exact Or.inr ⟨hsent, Or.inr hnew⟩

theorem ChildRekey.Kept.destroy (h : w₀.Kept w) (hb : w.Booked) (id : Nat) :
    w₀.Kept (w.destroy id) := by
  unfold ChildRekey.destroy
  split
  · next hany =>
    obtain ⟨c, hc, hcid⟩ := List.any_eq_true.mp hany
    rw [Bool.and_eq_true, beq_iff_eq, beq_iff_eq] at hcid
    have hkeeps : w.pool.Keeps ((w.pool.held id).foldl AddrPool.release w.pool) 0 :=
      hb.owned.releaseAll_keeps (by have := (hb.lt c hc).1; omega)
    rcases h.elsewhere hkeeps with hover | ⟨hsent, hsame | ⟨d, hd, hstage, htook⟩⟩
    · exact Or.inl hover
    · exact Or.inr ⟨hsent, Or.inl ⟨hsame.pool, hsame.srclist, hsame.dstlist⟩⟩
    · refine Or.inr ⟨hsent, Or.inr ⟨d, List.mem_filter.mpr ⟨hd, ?_⟩, hstage, htook⟩⟩
      simp only [bne_iff_ne, ne_eq]
      intro hdid
      have heq := hb.unique hc hd (hcid.1.trans hdid.symm)
      rw [heq, hstage] at hcid
      exact absurd hcid.2 (by decide)
  · exact h

theorem ChildRekey.foreignCall_spares {call : PoolCall} (h : w.foreignCall call = true) :
    call.spares w.pool 0 := by
  have hchild : ∀ c, w.foreign c = true → 0 ≠ c := by
    intro c hc
    simp only [ChildRekey.foreign, Bool.and_eq_true, decide_eq_true_eq] at hc
    exact fun he => hc.1.1 he.symm
  cases call with
  | allocAny child af mem => exact hchild child h
  | assign child addr mem => exact hchild child h
  | assignIp6intf child addr mem => exact hchild child h
  | move dest src mem =>
    simp only [ChildRekey.foreignCall, Bool.and_eq_true] at h
    exact ⟨hchild dest h.1, hchild src h.2⟩
  | release r =>
    simp only [ChildRekey.foreignCall, ChildRekey.foreignRecord, Bool.and_eq_true] at h
    show r ∉ w.pool.held 0
    simpa using h.1
  | releaseAll child => exact hchild child h

theorem ChildRekey.close_over (w : ChildRekey) : w.close.over = true := by
  show (w.installed || !false) = true
  simp

/-- the step -/
theorem childRekeyStep_kept (ev : ChildRekeyEvent) (h : w₀.Kept w) (hb : w.Booked)
    (hok : leaseOk w ev) : w₀.Kept (childRekeyStep w ev) := by
  cases ev with
  | expire o => exact expireSa_kept o h hb
  | request messageId o => exact createchildResponderRecv_kept messageId o h hb hok
  | followup id =>
    show w₀.Kept (w.answered id _)
    unfold ChildRekey.answered
    split
    · exact h
    · exact h.goesOn id fun _ => ⟨rfl, rfl⟩
  | abort id => exact h.childAbort hb hok
  | forget id => exact h.answered hb hok _
  | updateFailed id => exact updateFailed_kept id h hb hok
  | install id =>
    cases hpend : w.pending id with
    | none =>
      show w₀.Kept (w.install id)
      unfold ChildRekey.install
      rw [hpend]
      exact h
    | some c => exact Or.inl (ChildRekey.install_over hpend)
  | installFailed id => exact h.answered hb hok _
  | reap id => exact h.destroy hb id
  | client call =>
    show w₀.Kept (if w.foreignCall call then { w with pool := poolStep w.pool call } else w)
    split
    · next hcall =>
      exact h.elsewhere (poolStep_keeps call hb.owned (ChildRekey.foreignCall_spares hcall))
    · exact h
  | create => exact h.congr rfl rfl rfl rfl rfl rfl
  | setParent state => exact h.congr rfl rfl rfl rfl rfl rfl
  | close => exact Or.inl w.close_over

end

theorem ChildRekey.start_kept (ranges : List PoolRange) (calls : List PoolCall)
    (srclist dstlist : List IpAddr) (others : Nat) :
    (ChildRekey.start ranges calls srclist dstlist others).Kept
      (ChildRekey.start ranges calls srclist dstlist others) :=
  Or.inr ⟨rfl, Or.inl ⟨AddrPool.Keeps.refl _ _, rfl, rfl⟩⟩

/-- whatever rekeys of the old Child SA are started and answered and however they end: while none
is under way and none installed a Child SA, the old one has its leases and its address lists, none
of these addresses is free, and it is not being deleted -/
theorem failed_rekey_keeps (ranges : List PoolRange) (calls : List PoolCall)
    (srclist dstlist : List IpAddr) (others : Nat) (evs : List ChildRekeyEvent)
    (hok : Run.Meets childRekeyStep leaseOk
      (ChildRekey.start ranges calls srclist dstlist others) evs) :
    ∀ w ∈ Run.states childRekeyStep (ChildRekey.start ranges calls srclist dstlist others) evs,
      w.alive = true → w.installed = false → (∀ c ∈ w.news, c.stage ≠ .pending) →
      w.pool.leasesOf 0 = (calls.foldl poolStep (AddrPool.start ranges)).leasesOf 0
        ∧ w.srclist = srclist ∧ w.dstlist = dstlist
        ∧ (∀ a ∈ (calls.foldl poolStep (AddrPool.start ranges)).leasesOf 0,
            Leased w.pool.leases a.af a.address)
        ∧ w.deleteSent = false := by
  intro w hw halive hinst hidle
  have hstep : ∀ u ev, (u.Booked ∧ (ChildRekey.start ranges calls srclist dstlist others).Kept u) →
      leaseOk u ev → (childRekeyStep u ev).Booked
        ∧ (ChildRekey.start ranges calls srclist dstlist others).Kept (childRekeyStep u ev) :=
    fun u ev h hev => ⟨childRekeyStep_booked ev h.1, childRekeyStep_kept ev h.2 h.1 hev⟩
  have h := Run.states_inv hstep evs _
    ⟨ChildRekey.start_booked _ _ _ _ _, ChildRekey.start_kept _ _ _ _ _⟩ hok w hw
  rcases h.2 with hover | ⟨hsent, hsame | ⟨c, hc, hstage, _⟩⟩
  · rw [ChildRekey.over, hinst, halive] at hover
    cases hover
  · have hleases := hsame.pool.leasesOf
    refine ⟨hleases, hsame.srclist, hsame.dstlist, fun a ha => ?_, hsent⟩
    exact AddrPool.leased_of_leasesOf (hleases ▸ ha)
  · exact absurd hstage (hidle c hc)

/-! ### a leased address -/

/-- 10.0.0.1 is leased to the old Child SA -/
def leasedChild : ChildRekey :=
  ChildRekey.start [⟨.inet, [10, 0, 0, 1], [10, 0, 0, 9], rfl, rfl⟩] [.allocAny 0 .inet true]
    [ip4 192 0 2 1] [ip4 192 0 2 2] 1

/-- a rekey of ours fails before the move, then a request of the peer does, and another client gets
an address -/
def keptEvents : List ChildRekeyEvent :=
  [.expire .failed, .request 4 .failedEarly, .client (.allocAny 1 .inet true)]

theorem failed_rekey_keeps_leasedChild :
    Run.Meets childRekeyStep leaseOk leasedChild keptEvents
      ∧ (keptEvents.foldl childRekeyStep leasedChild).news = []
      ∧ (keptEvents.foldl childRekeyStep leasedChild).srclist = [ip4 192 0 2 1]
      ∧ (keptEvents.foldl childRekeyStep leasedChild).pool.leasesOf 0
          = leasedChild.pool.leasesOf 0 := by
  have hok : Run.Meets childRekeyStep leaseOk leasedChild keptEvents := by decide +kernel
  have hend : (keptEvents.foldl childRekeyStep leasedChild).news = [] := by decide +kernel
  have h := failed_rekey_keeps _ _ _ _ _ keptEvents hok _ (Run.foldl_mem_states keptEvents _)
    (by decide +kernel) (by decide +kernel) (by
      intro c hc
      change c ∈ (keptEvents.foldl childRekeyStep leasedChild).news at hc
      rw [hend] at hc
      exact nomatch hc)
  exact ⟨hok, hend, h.2.1, h.1⟩

/-- the rekey of the peer is answered TS_UNACCEPTABLE, and its Child SA is destroyed: the next
client gets the address of the old one -/
def lostEvents : List ChildRekeyEvent :=
  [.request 4 (.failedLate []), .reap 2, .client (.allocAny 1 .inet true)]

theorem failed_rekey_loses :
    (lostEvents.foldl childRekeyStep leasedChild).alive = true
      ∧ (lostEvents.foldl childRekeyStep leasedChild).installed = false
      ∧ (lostEvents.foldl childRekeyStep leasedChild).news = []
      ∧ (leasedChild.pool.leasesOf 0).map Lease.address = [[10, 0, 0, 1]]
      ∧ (lostEvents.foldl childRekeyStep leasedChild).pool.leasesOf 0 = []
      ∧ ((lostEvents.foldl childRekeyStep leasedChild).pool.leasesOf 1).map Lease.address
          = [[10, 0, 0, 1]]
      ∧ (lostEvents.foldl childRekeyStep leasedChild).srclist = []
      ∧ (lostEvents.foldl childRekeyStep leasedChild).dstlist = [] := by
  decide +kernel

end Ikev2
