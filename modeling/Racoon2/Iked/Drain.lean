import Racoon2.Lib.Run
import Racoon2.Lib.Slots
import Racoon2.Iked.Redirect

/-!
# Drained peers

The operator drains a peer: its requests are then answered with the gateway that takes it over.
`ikev2_drain.c` keeps the drained peers in 256 slots; here they are a map from addresses that holds
no more than 256 of them, and the answers to the requests are those of the map.

* `drainSet`, `drainLookup`    the table;
* `redirectDecision`    what `responder_state0_recv` does before it negotiates;
* `DrainMap.set`        the map;
* `drain_step`          one command or request (the step);
* `drain_refines`       every run.
-/

set_option linter.unusedVariables false

namespace Redirect
open Bytes

/-! ## the table -/

/-- `IKEV2_DRAIN_MAX` -/
def drainMax : Nat := 256

/-- `struct ikev2_drain_entry` of a slot in use -/
structure DrainEntry where
  peer : Sockaddr
  gw : Bytes

abbrev DrainTable := List (Option DrainEntry)

/-- `entry_matches` -/
def entryMatches (e : DrainEntry) (p : Sockaddr) : Bool :=
  match e.peer.addr, p.addr with
  | .inet a, .inet b => a == b
  | .inet6 a, .inet6 b => a == b
  | _, _ => false

/-- AF_INET or AF_INET6 -/
def Address.isInet : Address → Bool
  | .other _ => false
  | _ => true

/-- `ikev2_drain_set`; the result is false for -1 -/
def drainSet (t : DrainTable) (peer : Sockaddr) (gw : Option Bytes) : Bool × DrainTable :=
  if !peer.addr.isInet then (false, t)
  else if (Slots.used t).any fun e => entryMatches e peer then
    (true, Slots.adjust (fun e => entryMatches e peer) (fun e => gw.map fun gw => { e with gw := gw }) t)
  else
    match gw with
    | none => (true, t)
    | some gw =>
      match Slots.fill ⟨peer, gw⟩ t with
      | none => (false, t)
      | some t => (true, t)

/-- `ikev2_drain_lookup` -/
def drainLookup (t : DrainTable) (peer : Sockaddr) : Option Bytes :=
  ((Slots.used t).find? fun e => entryMatches e peer).map DrainEntry.gw

/-- `ikev2_drain_clear_all` -/
def drainClearAll (t : DrainTable) : DrainTable := t.map fun _ => none

def drainInit : DrainTable := List.replicate drainMax none

/-! ## the requests -/

/-- an IKE_SA_INIT with its payloads, or an IKE_SESSION_RESUME; `offered` if it has
REDIRECT_SUPPORTED or REDIRECTED_FROM -/
inductive PeerRequest where
  | init (remote : Sockaddr) (offered : Bool) (nonce : Bytes)
  | resume (remote : Sockaddr)

def PeerRequest.remote : PeerRequest → Sockaddr
  | .init remote _ _ => remote
  | .resume remote => remote

/-- what becomes of it; `redirect` has the data of the notify, and nothing is sent without -/
inductive PeerAnswer where
  | drop
  | redirect (data : Option Bytes)
  | ticketNack
  | goOn
  deriving DecidableEq

/-- `responder_state0_recv` before it looks at SA and KE, and the beginning of
`responder_ike_session_resume_recv`; `drain` is what `ikev2_drain_lookup` says -/
def redirectDecision (pton : InetPton) (redirectTo : Option Bytes) (drain : Option Bytes) :
    PeerRequest → PeerAnswer
  | .init remote offered nonce =>
    match drain with
    | some gw => if offered then .redirect (buildRedirectNotifyData pton gw nonce) else .drop
    | none =>
      match redirectTo with
      | none => .goOn
      | some pool =>
        if !offered then .goOn
        else
          match poolSelect pool remote with
          | none => .drop
          | some gw => .redirect (buildRedirectNotifyData pton gw nonce)
  | .resume _ => if drain.isSome then .ticketNack else .goOn

/-- commands of the operator, and requests -/
inductive DrainEvent where
  | set (peer : Sockaddr) (gw : Option Bytes)
  | clearAll
  | request (r : PeerRequest)

/-- a command is answered with its result -/
inductive DrainOutput where
  | result (ok : Bool)
  | answer (a : PeerAnswer)

/-- the table, and what was answered so far -/
structure DrainState where
  table : DrainTable
  outputs : List DrainOutput

section
variable (pton : InetPton) (redirectTo : Option Bytes)

def DrainState.step (s : DrainState) : DrainEvent → DrainState
  | .set peer gw =>
    { table := (drainSet s.table peer gw).2
      outputs := s.outputs ++ [.result (drainSet s.table peer gw).1] }
  | .clearAll => { s with table := drainClearAll s.table }
  | .request r =>
    { s with
      outputs := s.outputs
        ++ [.answer (redirectDecision pton redirectTo (drainLookup s.table r.remote) r)] }

end

def DrainState.start : DrainState := ⟨drainInit, []⟩

/-! ## the map -/

/-- the gateways of the drained addresses -/
abbrev DrainMap := Address → Option Bytes

/-- the addresses that are drained -/
def DrainMap.domain (m : DrainMap) : Set Address := {a | m a ≠ none}

section
open Classical

/-- whether an address may get a gateway: it has one, or there are less than 256 -/
noncomputable def DrainMap.room (m : DrainMap) (a : Address) : Bool :=
  decide (m a ≠ none ∨ m.domain.ncard < drainMax)

noncomputable def DrainMap.set (m : DrainMap) (a : Address) (gw : Option Bytes) : Bool × DrainMap :=
  if !a.isInet then (false, m)
  else if gw = none ∨ m.room a then (true, Function.update m a gw)
  else (false, m)

end

/-- the map, and what is answered by it -/
structure DrainSpec where
  map : DrainMap
  outputs : List DrainOutput

noncomputable def DrainSpec.step (pton : InetPton) (redirectTo : Option Bytes) (s : DrainSpec) :
    DrainEvent → DrainSpec
  | .set peer gw =>
    { map := (s.map.set peer.addr gw).2
      outputs := s.outputs ++ [.result (s.map.set peer.addr gw).1] }
  | .clearAll => { s with map := fun _ => none }
  | .request r =>
    { s with
      outputs := s.outputs
        ++ [.answer (redirectDecision pton redirectTo (s.map r.remote.addr) r)] }

/-! ## the table is the map -/

def DrainEntry.addr (e : DrainEntry) : Address := e.peer.addr

/-- one slot for an address, and addresses only -/
structure DrainInv (t : DrainTable) : Prop where
  size : t.length = drainMax
  distinct : Keyed.Distinct DrainEntry.addr (Slots.used t)
  inet : ∀ e ∈ Slots.used t, e.addr.isInet = true

def drainView (t : DrainTable) : DrainMap := Slots.view DrainEntry.addr DrainEntry.gw t

section
variable {t : DrainTable} {peer : Sockaddr}

theorem entryMatches_iff {e : DrainEntry} (he : e.addr.isInet = true) :
    entryMatches e peer = true ↔ e.addr = peer.addr := by
  unfold entryMatches
  unfold DrainEntry.addr at he ⊢
  cases hea : e.peer.addr with
  | inet a =>
    cases peer.addr with
    | inet b => rw [beq_iff_eq, Address.inet.injEq]
    | inet6 b => exact ⟨fun h => (by cases h), fun h => (by cases h)⟩
    | other f => exact ⟨fun h => (by cases h), fun h => (by cases h)⟩
  | inet6 a =>
    cases peer.addr with
    | inet b => exact ⟨fun h => (by cases h), fun h => (by cases h)⟩
    | inet6 b => rw [beq_iff_eq, Address.inet6.injEq]
    | other f => exact ⟨fun h => (by cases h), fun h => (by cases h)⟩
  | other f =>
    rw [hea] at he
    cases he

theorem drainLookup_eq (h : DrainInv t) (peer : Sockaddr) :
    drainLookup t peer = drainView t peer.addr := by
  have hfind : ∀ l : List DrainEntry, (∀ e ∈ l, e.addr.isInet = true) →
      l.find? (fun e => entryMatches e peer) = Keyed.find DrainEntry.addr l peer.addr := by
    intro l hl
    induction l with
    | nil => rfl
    | cons e l ih =>
      have he : entryMatches e peer = true ↔ e.addr = peer.addr :=
        entryMatches_iff (hl e List.mem_cons_self)
      rw [List.find?_cons, Keyed.find_cons, ih fun e' he' => hl e' (List.mem_cons_of_mem e he')]
      by_cases hm : entryMatches e peer = true
      · rw [hm, if_pos (he.mp hm)]
      · rw [Bool.eq_false_iff.mpr hm, if_neg fun heq => hm (he.mpr heq)]
  show ((Slots.used t).find? fun e => entryMatches e peer).map DrainEntry.gw = _
  rw [hfind _ h.inet]
  rfl

theorem any_matches_iff (h : DrainInv t) (peer : Sockaddr) :
    ((Slots.used t).any fun e => entryMatches e peer) = true ↔ drainView t peer.addr ≠ none := by
  unfold drainView
  rw [List.any_eq_true, Ne, Slots.view_eq_none]
  push Not
  constructor
  · rintro ⟨e, he, hm⟩
    exact ⟨e, he, (entryMatches_iff (h.inet e he)).mp hm⟩
  · rintro ⟨e, he, heq⟩
    exact ⟨e, he, (entryMatches_iff (h.inet e he)).mpr heq⟩

theorem domain_ncard (h : DrainInv t) : (drainView t).domain.ncard = (Slots.used t).length :=
  Slots.ncard_view h.distinct

theorem room_of_bound {m : DrainMap} {a : Address} (h : m a ≠ none) : m.room a = true := by
  unfold DrainMap.room
  exact decide_eq_true (.inl h)

/-- the address has a slot: it changes, or is freed -/
theorem adjust_refines (h : DrainInv t) (hbound : drainView t peer.addr ≠ none) (gw : Option Bytes) :
    let t' := Slots.adjust (fun e => entryMatches e peer)
      (fun e => gw.map fun gw => { e with gw := gw }) t
    DrainInv t' ∧ drainView t' = Function.update (drainView t) peer.addr gw := by
  intro t'
  have hsize : t'.length = drainMax := (Slots.length_adjust _ _ t).trans h.size
  obtain ⟨hno, -⟩ | ⟨e, r, hm, hperm, hadj⟩ :=
    Slots.adjust_perm (fun e => entryMatches e peer) (fun e => gw.map fun gw => { e with gw := gw }) t
  · obtain ⟨e, he, hm⟩ := List.any_eq_true.mp ((any_matches_iff h peer).mpr hbound)
    rw [hno e he] at hm
    cases hm
  have he : e ∈ Slots.used t := hperm.mem_iff.mpr List.mem_cons_self
  have hkey : e.addr = peer.addr := (entryMatches_iff (h.inet e he)).mp hm
  have hcons : Keyed.Distinct DrainEntry.addr (e :: r) := h.distinct.perm hperm
  have hr : ∀ x ∈ r, x.addr.isInet = true := fun x hx =>
    h.inet x (hperm.mem_iff.mpr (List.mem_cons_of_mem e hx))
  cases gw with
  | none =>
    have hadj : (Slots.used t').Perm r := hadj
    have hd : Keyed.Distinct DrainEntry.addr (Slots.used t') :=
      (hcons.sublist (List.sublist_cons_self e r)).perm hadj.symm
    refine ⟨⟨hsize, hd, fun x hx => hr x (hadj.mem_iff.mp hx)⟩, ?_⟩
    rw [← hkey]
    exact Slots.view_erase h.distinct hperm hadj
  | some gw =>
    have hadj : (Slots.used t').Perm ({ e with gw := gw } :: r) := hadj
    have hd' : Keyed.Distinct DrainEntry.addr ({ e with gw := gw } :: r) := hcons
    have hd : Keyed.Distinct DrainEntry.addr (Slots.used t') := hd'.perm hadj.symm
    refine ⟨⟨hsize, hd, fun x hx => ?_⟩, ?_⟩
    · rcases List.mem_cons.mp (hadj.mem_iff.mp hx) with rfl | hx
      · exact h.inet e he
      · exact hr x hx
    · rw [← hkey]
      exact Slots.view_change h.distinct hd hperm hadj rfl

/-- the address has none: it gets a free one -/
theorem fill_refines {t' : DrainTable} {gw : Bytes} (h : DrainInv t) (hinet : peer.addr.isInet = true)
    (hfree : drainView t peer.addr = none) (hfill : Slots.fill ⟨peer, gw⟩ t = some t') :
    DrainInv t' ∧ drainView t' = Function.update (drainView t) peer.addr (some gw) := by
  obtain ⟨hperm, hlen⟩ := Slots.fill_perm hfill
  have hd : Keyed.Distinct DrainEntry.addr (Slots.used t') := by
    have hcons : Keyed.Distinct DrainEntry.addr (⟨peer, gw⟩ :: Slots.used t) := by
      refine List.nodup_cons.mpr ⟨fun hmem => ?_, h.distinct⟩
      obtain ⟨e, he, heq⟩ := List.mem_map.mp hmem
      exact Slots.view_eq_none.mp hfree e he heq
    exact hcons.perm hperm.symm
  refine ⟨⟨hlen.trans h.size, hd, fun x hx => ?_⟩, Slots.view_put hd hperm⟩
  rcases List.mem_cons.mp (hperm.mem_iff.mp hx) with rfl | hx
  · exact hinet
  · exact h.inet x hx

/-- the map at an address of the two families -/
theorem drainMap_set {m : DrainMap} {a : Address} (hinet : a.isInet = true) (gw : Option Bytes) :
    ((gw = none ∨ m.room a = true) → m.set a gw = (true, Function.update m a gw))
      ∧ (¬(gw = none ∨ m.room a = true) → m.set a gw = (false, m)) := by
  unfold DrainMap.set
  rw [hinet]
  exact ⟨fun h => if_pos h, fun h => if_neg h⟩

theorem room_iff (h : DrainInv t) (hfree : drainView t peer.addr = none) :
    (drainView t).room peer.addr = true ↔ (Slots.used t).length < t.length := by
  unfold DrainMap.room
  rw [decide_eq_true_iff, domain_ncard h, h.size]
  exact ⟨fun hr => hr.elim (fun hne => absurd hfree hne) id, .inr⟩

theorem drainSet_refines (h : DrainInv t) (peer : Sockaddr) (gw : Option Bytes) :
    DrainInv (drainSet t peer gw).2
      ∧ (drainSet t peer gw).1 = ((drainView t).set peer.addr gw).1
      ∧ drainView (drainSet t peer gw).2 = ((drainView t).set peer.addr gw).2 := by
  unfold drainSet
  cases hinet : peer.addr.isInet with
  | false =>
    unfold DrainMap.set
    rw [hinet]
    exact ⟨h, rfl, rfl⟩
  | true =>
    obtain ⟨hset, hrefuse⟩ := drainMap_set (m := drainView t) hinet gw
    rw [if_neg (by decide)]
    split
    · next hany =>
      have hbound := (any_matches_iff h peer).mp hany
      obtain ⟨hinv, hview⟩ := adjust_refines h hbound gw
      rw [hset (.inr (room_of_bound hbound))]
      exact ⟨hinv, rfl, hview⟩
    next hany =>
    have hfree : drainView t peer.addr = none := by
      by_contra hne
      exact hany ((any_matches_iff h peer).mpr hne)
    cases gw with
    | none =>
      have hsame : Function.update (drainView t) peer.addr none = drainView t := by
        rw [← hfree, Function.update_eq_self]
      rw [hset (.inl rfl), hsame]
      exact ⟨h, rfl, rfl⟩
    | some gw =>
      dsimp only
      cases hfill : Slots.fill ⟨peer, gw⟩ t with
      | none =>
        have hfull := Slots.fill_eq_none_iff.mp hfill
        rw [hrefuse]
        · exact ⟨h, rfl, rfl⟩
        rintro (hnone | hr)
        · cases hnone
        · have hlt := (room_iff h hfree).mp hr
          omega
      | some t' =>
        have hlt : (Slots.used t).length < t.length := by
          have hle : (Slots.used t).length ≤ t.length := List.reduceOption_length_le t
          refine lt_of_le_of_ne hle fun heq => ?_
          rw [Slots.fill_eq_none_iff.mpr heq] at hfill
          cases hfill
        obtain ⟨hinv, hview⟩ := fill_refines h hinet hfree hfill
        rw [hset (.inr ((room_iff h hfree).mpr hlt))]
        exact ⟨hinv, rfl, hview⟩

/-- no slot is in use -/
theorem drainInv_free (hsize : t.length = drainMax) (hused : Slots.used t = []) :
    DrainInv t ∧ drainView t = fun _ => none := by
  refine ⟨⟨hsize, ?_, ?_⟩, ?_⟩
  · rw [hused]
    exact List.nodup_nil
  · rw [hused]
    exact fun e he => (by cases he)
  · funext a
    unfold drainView
    rw [Slots.view_eq_none, hused]
    exact fun e he => (by cases he)

theorem drainClearAll_refines (h : DrainInv t) :
    DrainInv (drainClearAll t) ∧ drainView (drainClearAll t) = fun _ => none := by
  refine drainInv_free ((List.length_map _).trans h.size) ?_
  unfold Slots.used drainClearAll
  rw [List.map_const', List.reduceOption_replicate_none]

theorem drainInit_refines : DrainInv drainInit ∧ drainView drainInit = fun _ => none :=
  drainInv_free List.length_replicate List.reduceOption_replicate_none

end

/-! ## runs -/

def DrainState.spec (s : DrainState) : DrainSpec := ⟨drainView s.table, s.outputs⟩

/-- one command or request -/
theorem drain_step (pton : InetPton) (redirectTo : Option Bytes) {s : DrainState}
    (h : DrainInv s.table) (e : DrainEvent) :
    DrainInv (s.step pton redirectTo e).table
      ∧ (s.step pton redirectTo e).spec = s.spec.step pton redirectTo e := by
  cases e with
  | set peer gw =>
    obtain ⟨hinv, hok, hview⟩ := drainSet_refines h peer gw
    refine ⟨hinv, ?_⟩
    show DrainSpec.mk (drainView (drainSet s.table peer gw).2)
      (s.outputs ++ [.result (drainSet s.table peer gw).1]) = _
    rw [hok, hview]
    rfl
  | clearAll =>
    obtain ⟨hinv, hview⟩ := drainClearAll_refines h
    refine ⟨hinv, ?_⟩
    show DrainSpec.mk (drainView (drainClearAll s.table)) s.outputs = _
    rw [hview]
    rfl
  | request r =>
    refine ⟨h, ?_⟩
    show DrainSpec.mk (drainView s.table) (s.outputs
      ++ [.answer (redirectDecision pton redirectTo (drainLookup s.table r.remote) r)]) = _
    rw [drainLookup_eq h]
    rfl

/-- in every run of commands and requests the 256 slots are a map of at most 256 addresses: the
commands succeed and the requests are answered as the map says, the ports and the order in which
slots were taken and freed do not matter -/
theorem drain_refines (pton : InetPton) (redirectTo : Option Bytes) (es : List DrainEvent) :
    (es.foldl (DrainState.step pton redirectTo) .start).spec
      = es.foldl (DrainSpec.step pton redirectTo) ⟨fun _ => none, []⟩ := by
  have hstart : DrainState.start.spec = ⟨fun _ => none, []⟩ := by
    show DrainSpec.mk (drainView drainInit) [] = _
    rw [drainInit_refines.2]
  have hmeets : Run.Meets (DrainState.step pton redirectTo) (fun _ _ => True) DrainState.start es :=
    Run.meets_of_forall (fun _ _ => trivial) es _
  have hstep : ∀ s e, DrainInv (DrainState.table s) → True →
      DrainInv (s.step pton redirectTo e).table
        ∧ (s.step pton redirectTo e).spec = s.spec.step pton redirectTo e :=
    fun s e hs _ => drain_step pton redirectTo hs e
  rw [← hstart]
  exact Run.foldl_refines hstep es _ drainInit_refines.1 hmeets

end Redirect
