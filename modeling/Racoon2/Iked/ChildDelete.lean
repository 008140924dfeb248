import Racoon2.Lib.Run
import Racoon2.Iked.Sa

/-!
# Deleting a Child SA

`ikev2_child_delete` with its INFORMATIONAL exchange, `ikev2_process_delete` for the Delete payloads
of both directions, and the IKE SA rekey that moves Child SAs under an exchange.  The inbound SAs of
the kernel go when the request is queued, the outbound ones when a Delete payload finds the Child
SA, and the state follows a lookup of its own.

* `DelSys`               the Child SAs of every IKE SA, with their SAs in the kernel;
* `processDelete`        a Delete payload;
* `delStep`              the events;
* `deleteOk`             the events after which a deletion is complete, once both ends have answered;
* `uncrossed`            the requests that do not cross a DELETE of ours;
* `DelSys.Sound`         what is deleted, and who still owes an answer;
* `DelSys.Closed`        what a DELETE of the peer leaves where none crosses;
* `delete_complete`      every run.
-/

set_option linter.unusedVariables false

namespace Ikev2

/-! ## the records -/

inductive IpsecProto where
  | esp
  | ah
  deriving DecidableEq, Repr

/-- an SA of the kernel, in one direction -/
structure KernelSa where
  proto : IpsecProto
  spi : Nat
  deriving DecidableEq, Repr

/-- an IKE SA: the peer it is with, and its place among those with that peer -/
structure IkeRef where
  peer : Nat
  serial : Nat
  deriving DecidableEq, Repr

/-- `struct ikev2_child_sa` of a pair of SAs in the kernel -/
structure DelChild where
  id : Nat
  /-- the IKE SA it is on -/
  ike : IkeRef
  state : ChildState
  deleteSent : Bool
  /-- `my_proposal[1]`: the inbound SPIs -/
  mine : List KernelSa
  /-- `peer_proposal`: the outbound SPIs -/
  peer : List KernelSa
  /-- what the kernel has of it -/
  inbound : List KernelSa
  outbound : List KernelSa
  /-- its end was asked for: a DELETE of either side, or the end of its IKE SA -/
  asked : Bool
  /-- our DELETE for it was answered -/
  ownAnswered : Bool
  /-- a DELETE of the peer for it was answered -/
  peerAnswered : Bool
  deriving DecidableEq, Repr

/-- the `struct ikev2_child_sa` of the exchange of a DELETE -/
structure DelExchange where
  ike : IkeRef
  /-- REQUEST_SENT, and not REQUEST_PENDING -/
  sent : Bool
  deletingChildId : Nat
  deriving DecidableEq, Repr

structure DelSys where
  children : List DelChild
  exchanges : List DelExchange
  nextId : Nat

def DelSys.start : DelSys := ⟨[], [], 0⟩

/-- the payloads of an INFORMATIONAL message that matter here -/
inductive InfoPayload where
  | delete (proto : IpsecProto) (spis : List Nat)
  | invalidSpi (sa : KernelSa)
  /-- another notify of an error type -/
  | error
  deriving DecidableEq, Repr

/-! ## the Child SA -/

section
variable (c : DelChild)

/-- `ikev2_child_delete_outbound` -/
def DelChild.deleteOutbound : DelChild :=
  { c with outbound := c.outbound.filter fun s => !c.peer.contains s }

/-- `ikev2_child_delete_inbound` -/
def DelChild.deleteInbound : DelChild :=
  { c with inbound := c.inbound.filter fun s => !(c.mine.contains s && s.spi != 0) }

/-- what `ikev2_process_delete` does to the Child SA it found -/
def DelChild.deleted (request : Bool) : DelChild :=
  { c with
    outbound := c.deleteOutbound.outbound
    inbound := if !c.deleteSent && request then c.deleteInbound.inbound else c.inbound
    state := if !(c.deleteSent && request) then .expired else c.state }

/-- the SPI that `ikev2_process_delete` answers -/
def DelChild.echo (request : Bool) (proto : IpsecProto) : List Nat :=
  if request && !c.deleteSent then
    ((c.mine.find? fun s => s.proto == proto).toList.filter fun s => s.spi != 0).map KernelSa.spi
  else []

/-- `ikev2_abort`, for one Child SA of the IKE SA -/
def DelChild.abort : DelChild :=
  if c.state = .mature then
    { c with
      inbound := c.deleteInbound.inbound, outbound := c.deleteOutbound.outbound, state := .expired }
  else c

/-- history: a request of the peer named it, and was answered -/
def DelChild.named : DelChild := { c with asked := true, peerAnswered := true }

end

/-! ## the system -/

section
variable (w : DelSys)

def DelSys.setChild (id : Nat) (f : DelChild → DelChild) : DelSys :=
  { w with children := w.children.map fun c => if c.id = id then f c else c }

/-- `ikev2_find_child_sa_by_spi(ike_sa, protocol_id, spi, PEER)` -/
def DelSys.findByPeerSpi (ike : IkeRef) (s : KernelSa) : Option DelChild :=
  w.children.find? fun c => c.ike == ike && c.state == .mature && c.peer.contains s

/-- the step of the loop of `ikev2_process_delete`; a DELETE of the peer is for its Child SA, on
whichever IKE SA that is -/
def processSpi (ike : IkeRef) (request : Bool) (s : KernelSa) : DelSys :=
  match w.findByPeerSpi ike s with
  | none =>
    if request then
      { w with children := w.children.map fun c =>
          if c.state = .mature ∧ c.ike.peer = ike.peer ∧ s ∈ c.peer then c.named else c }
    else w
  | some c => w.setChild c.id fun c =>
      if request then (c.deleted request).named else c.deleted request

/-- the answer to one SPI: an SPI for the Delete payload, or a notify -/
def answerSpi (ike : IkeRef) (request : Bool) (s : KernelSa) : List Nat × List InfoPayload :=
  match w.findByPeerSpi ike s with
  | none => ([], if request then [.invalidSpi s] else [])
  | some c => (c.echo request s.proto, [])

/-- the loop of `ikev2_process_delete` -/
def processSpis (ike : IkeRef) (request : Bool) (proto : IpsecProto) :
    List Nat → DelSys → DelSys × List Nat × List InfoPayload
  | [], w => (w, [], [])
  | spi :: spis, w =>
    let rest := processSpis ike request proto spis (processSpi w ike request ⟨proto, spi⟩)
    let answer := answerSpi w ike request ⟨proto, spi⟩
    (rest.1, answer.1 ++ rest.2.1, answer.2 ++ rest.2.2)

/-- `ikev2_process_delete` for ESP and AH, with the payloads of the answer -/
def processDelete (ike : IkeRef) (request : Bool) (proto : IpsecProto) (spis : List Nat) :
    DelSys × List InfoPayload :=
  let out := processSpis ike request proto spis w
  (out.1, out.2.2 ++ if out.2.1.isEmpty then [] else [.delete proto out.2.1])

/-- `ikev2_abort` -/
def DelSys.abort (ike : IkeRef) : DelSys :=
  { w with
    children := w.children.map fun c => if c.ike = ike then c.abort else c
    exchanges := w.exchanges.filter fun e => e.ike != ike }

/-- `ikev2_info_init_delete_recv`: an error notify ends the IKE SA -/
def infoInitDeleteRecv (ike : IkeRef) : List InfoPayload → DelSys → DelSys
  | [], w => w
  | .delete proto spis :: ps, w => infoInitDeleteRecv ike ps (processDelete w ike false proto spis).1
  | .invalidSpi _ :: _, w => w.abort ike
  | .error :: _, w => w.abort ike

/-- `ikev2_child_delete_callback(REQUEST_CALLBACK_RESPONSE)`, with the end of
`informational_initiator_recv`: the Child SA is looked for on the IKE SA of the exchange -/
def childDeleteCallback (e : DelExchange) (payloads : List InfoPayload) : DelSys :=
  let w := infoInitDeleteRecv e.ike payloads w
  { w with
    children := w.children.map fun c =>
      if c.id = e.deletingChildId then
        if c.ike = e.ike then { c with state := .expired, ownAnswered := true }
        else { c with ownAnswered := true }
      else c
    exchanges := w.exchanges.filter fun x => x.deletingChildId != e.deletingChildId }

inductive DeleteOutcome where
  /-- no memory for a payload -/
  | nomem
  /-- `ikev2_request_initiator_start` fails -/
  | notStarted
  | started
  deriving DecidableEq, Repr

/-- `ikev2_child_delete` of a MATURE Child SA -/
def childDelete (id : Nat) (o : DeleteOutcome) : DelSys :=
  match w.children.find? fun c => c.id == id && c.state == .mature with
  | none => w
  | some c =>
    if c.deleteSent then w
    else match o with
      | .nomem => w
      | .notStarted => w.setChild id fun c => { c with deleteSent := true, asked := true }
      | .started =>
        { w.setChild id fun c => { c.deleteInbound with deleteSent := true, asked := true } with
          exchanges := ⟨c.ike, false, id⟩ :: w.exchanges }

/-- `ikev2_child_adopt`: WAIT_RESPONSE and REQUEST_SENT stay -/
def DelSys.adopt (old : IkeRef) (serial : Nat) : DelSys :=
  { w with
    children := w.children.map fun c =>
      if c.ike = old then { c with ike := ⟨old.peer, serial⟩ } else c
    exchanges := w.exchanges.map fun e =>
      if e.ike = old ∧ e.sent = false then { e with ike := ⟨old.peer, serial⟩ } else e }

inductive DelEvent where
  /-- the SAs of a new Child SA are installed -/
  | install (ike : IkeRef) (mine peer : List KernelSa)
  | childDelete (id : Nat) (o : DeleteOutcome)
  | transmit (id : Nat) (ok : Bool)
  /-- the response to the DELETE of the Child SA -/
  | response (id : Nat) (payloads : List InfoPayload)
  /-- a request of the peer with these Delete payloads -/
  | request (ike : IkeRef) (deletes : List (IpsecProto × List Nat))
  /-- an IKE SA is rekeyed -/
  | adopt (old : IkeRef) (serial : Nat)
  /-- the IKE SA ends -/
  | abort (ike : IkeRef)
  deriving DecidableEq, Repr

/-- the state MATURE comes after GETSPI, which gives every proposal an SPI -/
def DelSys.install (ike : IkeRef) (mine peer : List KernelSa) : DelSys :=
  if mine.all fun s => s.spi != 0 then
    { w with
      children := ⟨w.nextId, ike, .mature, false, mine, peer, mine, peer, false, false, false⟩ :: w.children
      nextId := w.nextId + 1 }
  else w

def DelSys.response (id : Nat) (payloads : List InfoPayload) : DelSys :=
  match w.exchanges.find? fun e => e.deletingChildId == id && e.sent with
  | none => w
  | some e => childDeleteCallback w e payloads

/-- the IKE SA ends, and its Child SAs with it -/
def DelSys.finish (ike : IkeRef) : DelSys :=
  DelSys.abort { w with children := w.children.map fun c =>
    if c.ike = ike then { c with asked := true } else c } ike

end

/-! ## complete deletions -/

section
variable (w : DelSys)

/-- the SAs of a Delete payload -/
def deleteSas (proto : IpsecProto) (spis : List Nat) : List KernelSa := spis.map (KernelSa.mk proto)

def InfoPayload.sas : InfoPayload → List KernelSa
  | .delete proto spis => deleteSas proto spis
  | _ => []

/-- the SAs of the Delete payloads of a response -/
def responseSas (payloads : List InfoPayload) : List KernelSa := payloads.flatMap InfoPayload.sas

/-- the SAs of the Delete payloads of a request -/
def requestSas (deletes : List (IpsecProto × List Nat)) : List KernelSa :=
  deletes.flatMap fun d => deleteSas d.1 d.2

def InfoPayload.isDelete : InfoPayload → Bool
  | .delete _ _ => true
  | _ => false

/-- the response is for the Child SA alone: no error notify, no SPI of another Child SA of the IKE
SA, and an SPI of its own, unless a DELETE of the peer has crossed -/
def DelSys.responseOk (e : DelExchange) (payloads : List InfoPayload) : Prop :=
  (∀ p ∈ payloads, p.isDelete = true)
    ∧ (∀ c ∈ w.children, c.state = .mature → c.ike = e.ike → c.id ≠ e.deletingChildId →
        ∀ s ∈ c.peer, s ∉ responseSas payloads)
    ∧ ∀ c ∈ w.children, c.state = .mature → c.id = e.deletingChildId →
        c.outbound = [] ∨ ∃ s ∈ c.peer, s ∈ responseSas payloads

instance DelSys.responseOk.decidable (e : DelExchange) (payloads : List InfoPayload) :
    Decidable (w.responseOk e payloads) :=
  inferInstanceAs (Decidable (_ ∧ _ ∧ _))

/-- a DELETE of the peer names no Child SA that a DELETE of ours is out for: where the two cross, the
Child SA stays MATURE until the response to ours -/
def uncrossed : DelEvent → Prop
  | .request ike deletes => ∀ c ∈ w.children, c.state = .mature → c.ike.peer = ike.peer →
      c.deleteSent = true → ∀ s ∈ c.peer, s ∉ requestSas deletes
  | _ => True

instance uncrossed.decidable : ∀ ev, Decidable (uncrossed w ev)
  | .request _ _ => inferInstanceAs (Decidable (∀ c ∈ w.children, _))
  | .install _ _ _ => inferInstanceAs (Decidable True)
  | .childDelete _ _ => inferInstanceAs (Decidable True)
  | .transmit _ _ => inferInstanceAs (Decidable True)
  | .response _ _ => inferInstanceAs (Decidable True)
  | .adopt _ _ => inferInstanceAs (Decidable True)
  | .abort _ => inferInstanceAs (Decidable True)

/-- the SPIs of the peer are its own; a DELETE is sent; its response is for the Child SA alone; a
DELETE of the peer comes on the IKE SA that has the Child SA; and no IKE SA is rekeyed while the
response to a DELETE is due -/
def deleteOk : DelEvent → Prop
  | .install ike mine peer => ∀ c ∈ w.children, c.state = .mature → c.ike.peer = ike.peer →
      ∀ s ∈ peer, s ∉ c.peer
  | .childDelete id o => o ≠ .notStarted
  | .transmit id ok => ok = true
  | .response id payloads => ∀ e ∈ w.exchanges, e.deletingChildId = id → w.responseOk e payloads
  | .request ike deletes => ∀ c ∈ w.children, c.state = .mature → c.ike.peer = ike.peer →
      ∀ s ∈ c.peer, s ∈ requestSas deletes → c.ike = ike
  | .adopt old serial => ∀ e ∈ w.exchanges, e.ike = old → e.sent = false
  | .abort ike => True

instance deleteOk.decidable : ∀ ev, Decidable (deleteOk w ev)
  | .install _ _ _ => inferInstanceAs (Decidable (∀ c ∈ w.children, _))
  | .childDelete _ _ => inferInstanceAs (Decidable (_ ≠ _))
  | .transmit _ _ => inferInstanceAs (Decidable (_ = _))
  | .response _ _ => inferInstanceAs (Decidable (∀ e ∈ w.exchanges, _))
  | .request _ _ => inferInstanceAs (Decidable (∀ c ∈ w.children, _))
  | .adopt _ _ => inferInstanceAs (Decidable (∀ e ∈ w.exchanges, _))
  | .abort _ => inferInstanceAs (Decidable True)

/-- `deleteOk`, and the two DELETEs do not cross -/
def deleteAlone (ev : DelEvent) : Prop := deleteOk w ev ∧ uncrossed w ev

instance deleteAlone.decidable (ev : DelEvent) : Decidable (deleteAlone w ev) :=
  inferInstanceAs (Decidable (_ ∧ _))

end

/-- what is deleted of one Child SA -/
structure DelChild.Ok (exchanges : List DelExchange) (c : DelChild) : Prop where
  spis : ∀ s ∈ c.mine, s.spi ≠ 0
  inb : c.inbound = c.mine ∨ c.inbound = []
  outb : c.outbound = c.peer ∨ c.outbound = []
  state : c.state = .mature ∨ c.state = .expired
  untouched : c.asked = false → c.state = .mature ∧ c.inbound = c.mine ∧ c.outbound = c.peer
    ∧ c.deleteSent = false
  expired : c.state = .expired → c.inbound = [] ∧ c.outbound = []
  sent : c.deleteSent = true → c.state = .mature → c.inbound = []
    ∧ ∃ e ∈ exchanges, e.deletingChildId = c.id
  own : c.ownAnswered = true → c.state = .expired
  peers : c.peerAnswered = true → c.inbound = [] ∧ c.outbound = []
    ∧ (c.state = .expired ∨ c.deleteSent = true)

structure DelSys.Sound (w : DelSys) : Prop where
  ids : (w.children.map DelChild.id).Nodup
  lt : ∀ c ∈ w.children, c.id < w.nextId
  exLt : ∀ e ∈ w.exchanges, e.deletingChildId < w.nextId
  child : ∀ c ∈ w.children, c.Ok w.exchanges
  /-- an exchange is on the IKE SA of its Child SA -/
  owner : ∀ e ∈ w.exchanges, ∀ c ∈ w.children, c.id = e.deletingChildId → c.asked = true
    ∧ (c.state = .mature → e.ike = c.ike ∧ c.deleteSent = true)
  apart : ∀ c ∈ w.children, ∀ d ∈ w.children, c.state = .mature → d.state = .mature →
    c.ike.peer = d.ike.peer → ∀ s ∈ c.peer, s ∈ d.peer → c = d

section
variable {w : DelSys} {c : DelChild} {es : List DelExchange}

theorem DelChild.Ok.deleteOutbound (h : c.Ok es) : c.deleteOutbound.outbound = [] := by
  show c.outbound.filter _ = []
  rcases h.outb with ho | ho <;> rw [ho] <;> simp

theorem DelChild.Ok.deleteInbound (h : c.Ok es) : c.deleteInbound.inbound = [] := by
  show c.inbound.filter _ = []
  rcases h.inb with hi | hi
  · rw [hi, List.filter_eq_nil_iff]
    intro s hs
    simpa [hs] using h.spis s hs
  · rw [hi]
    rfl

/-- all of it is gone -/
theorem DelChild.Ok.gone (h : c.Ok es) {c' : DelChild} {es' : List DelExchange}
    (hin : c'.inbound = []) (hout : c'.outbound = []) (hstate : c'.state = .expired)
    (hasked : c'.asked = true) (hmine : c'.mine = c.mine) : c'.Ok es' where
  spis := by rw [hmine]; exact h.spis
  inb := Or.inr hin
  outb := Or.inr hout
  state := Or.inr hstate
  untouched := fun hno => by rw [hasked] at hno; cases hno
  expired := fun _ => ⟨hin, hout⟩
  sent := fun _ hm => by rw [hstate] at hm; cases hm
  own := fun _ => hstate
  peers := fun _ => ⟨hin, hout, Or.inl hstate⟩

theorem DelChild.Ok.abort (h : c.Ok es) (hasked : c.asked = true) (es' : List DelExchange) :
    c.abort.Ok es' := by
  unfold DelChild.abort
  split
  · exact h.gone h.deleteInbound h.deleteOutbound rfl hasked rfl
  · next hm =>
    have hexp := h.state.resolve_left hm
    exact h.gone (h.expired hexp).1 (h.expired hexp).2 hexp hasked rfl

/-- the exchanges change, and that of the Child SA is still there -/
theorem DelChild.Ok.exchanges (h : c.Ok es) {es' : List DelExchange}
    (hkeep : c.state = .mature → ∀ e ∈ es, e.deletingChildId = c.id →
      ∃ e' ∈ es', e'.deletingChildId = c.id) : c.Ok es' :=
  { h with
    sent := fun hs hm => by
      obtain ⟨hin, e, he, hid⟩ := h.sent hs hm
      exact ⟨hin, hkeep hm e he hid⟩ }

/-- a DELETE of the peer finds the Child SA -/
theorem DelChild.Ok.requested (h : c.Ok es) (hmature : c.state = .mature) :
    (c.deleted true).named.Ok es := by
  cases hsent : c.deleteSent with
  | false =>
    refine h.gone ?_ h.deleteOutbound ?_ rfl rfl
    · show (if !c.deleteSent && true then c.deleteInbound.inbound else c.inbound) = []
      rw [hsent]
      exact h.deleteInbound
    · show (if !(c.deleteSent && true) then .expired else c.state) = ChildState.expired
      rw [hsent]
      rfl
  | true =>
    -- ours is under way: the inbound SAs are gone, and the state waits for the response
    obtain ⟨hin, hex⟩ := h.sent hsent hmature
    have hin' : (c.deleted true).named.inbound = [] := by
      show (if !c.deleteSent && true then c.deleteInbound.inbound else c.inbound) = []
      rw [hsent]
      exact hin
    have hout' : (c.deleted true).named.outbound = [] := h.deleteOutbound
    have hst : (c.deleted true).named.state = .mature := by
      show (if !(c.deleteSent && true) then .expired else c.state) = ChildState.mature
      rw [hsent]
      exact hmature
    have hown : c.ownAnswered = true → False := fun ho => by
      have hexp := h.own ho
      rw [hmature] at hexp
      cases hexp
    exact {
      spis := h.spis
      inb := Or.inr hin'
      outb := Or.inr hout'
      state := Or.inl hst
      untouched := fun hno => nomatch hno
      expired := fun _ => ⟨hin', hout'⟩
      sent := fun _ _ => ⟨hin', hex⟩
      own := fun ho => (hown ho).elim
      peers := fun _ => ⟨hin', hout', Or.inr hsent⟩ }

theorem DelSys.Sound.unique (h : w.Sound) {c d : DelChild} (hc : c ∈ w.children)
    (hd : d ∈ w.children) (hid : c.id = d.id) : c = d :=
  List.inj_on_of_nodup_map h.ids hc hd hid

/-- every Child SA changes by `f`, the exchanges to `es` -/
theorem DelSys.Sound.mapChildren (h : w.Sound) (f : DelChild → DelChild) (es : List DelExchange)
    (hsame : ∀ c, (f c).id = c.id ∧ (f c).peer = c.peer ∧ (f c).ike.peer = c.ike.peer)
    (hstate : ∀ c, (f c).state = .mature → c.state = .mature)
    (hok : ∀ c ∈ w.children, (f c).Ok es) (hlt : ∀ e ∈ es, e.deletingChildId < w.nextId)
    (howner : ∀ e ∈ es, ∀ c ∈ w.children, c.id = e.deletingChildId → (f c).asked = true
      ∧ ((f c).state = .mature → e.ike = (f c).ike ∧ (f c).deleteSent = true)) :
    DelSys.Sound { w with children := w.children.map f, exchanges := es } where
  ids := by
    show ((w.children.map f).map DelChild.id).Nodup
    rw [List.map_map]
    convert h.ids using 1
    exact List.map_congr_left fun c _ => (hsame c).1
  lt := fun c hc => by
    obtain ⟨d, hd, rfl⟩ := List.mem_map.mp hc
    rw [(hsame d).1]
    exact h.lt d hd
  exLt := hlt
  child := fun c hc => by
    obtain ⟨d, hd, rfl⟩ := List.mem_map.mp hc
    exact hok d hd
  owner := fun e he c hc hid => by
    obtain ⟨d, hd, rfl⟩ := List.mem_map.mp hc
    exact howner e he d hd ((hsame d).1.symm.trans hid)
  apart := fun c hc d hd hcm hdm hp s hs hs' => by
    obtain ⟨a, ha, rfl⟩ := List.mem_map.mp hc
    obtain ⟨b, hb, rfl⟩ := List.mem_map.mp hd
    rw [(hsame a).2.1] at hs
    rw [(hsame b).2.1] at hs'
    rw [(hsame a).2.2, (hsame b).2.2] at hp
    rw [h.apart a ha b hb (hstate a hcm) (hstate b hdm) hp s hs hs']

end

/-! ## the Delete payloads -/

section
variable {w : DelSys} {ike : IkeRef} {s : KernelSa} {c : DelChild} {request : Bool}

theorem DelChild.deleted_state (request : Bool) (h : (c.deleted request).state = .mature) :
    c.state = .mature := by
  change (if !(c.deleteSent && request) then .expired else c.state) = ChildState.mature at h
  split at h
  · cases h
  · exact h

end

/-! ## the response -/

/-- the SPIs `sas` of the response to `e` are left -/
structure DelSys.Answering (w : DelSys) (e : DelExchange) (sas : List KernelSa) : Prop where
  sound : w.Sound
  mem : e ∈ w.exchanges
  alone : ∀ c ∈ w.children, c.state = .mature → c.ike = e.ike → c.id ≠ e.deletingChildId →
    ∀ s ∈ c.peer, s ∉ sas
  own : ∀ c ∈ w.children, c.state = .mature → c.id = e.deletingChildId →
    c.outbound = [] ∨ ∃ s ∈ c.peer, s ∈ sas

section
variable {w : DelSys} {e : DelExchange} {c : DelChild} {s : KernelSa} {sas : List KernelSa}

/-- the inbound SAs went with the request -/
theorem DelSys.Sound.inbound (h : w.Sound) (he : e ∈ w.exchanges) (hc : c ∈ w.children)
    (hid : c.id = e.deletingChildId) : c.inbound = [] := by
  rcases (h.child c hc).state with hm | hexp
  · exact ((h.child c hc).sent ((h.owner e he c hc hid).2 hm).2 hm).1
  · exact ((h.child c hc).expired hexp).1

theorem DelChild.deleted_response (d : DelChild) : (d.deleted false).state = .expired := by
  show (if !(d.deleteSent && false) then .expired else d.state) = ChildState.expired
  rw [Bool.and_false]
  rfl

/-- a Delete payload of the response finds the Child SA of the exchange -/
theorem DelSys.Sound.responded (h : w.Sound) (he : e ∈ w.exchanges) (hc : c ∈ w.children)
    (hid : c.id = e.deletingChildId) : (w.setChild c.id fun c => c.deleted false).Sound := by
  have hin : (c.deleted false).inbound = [] := by
    show (if !c.deleteSent && false then c.deleteInbound.inbound else c.inbound) = []
    rw [Bool.and_false]
    exact h.inbound he hc hid
  refine h.mapChildren _ w.exchanges (fun d => ?_) (fun d hd => ?_) (fun d hd => ?_) h.exLt
    fun x hx d hd hxid => ?_
  · split <;> exact ⟨rfl, rfl, rfl⟩
  · split at hd
    · exact DelChild.deleted_state false hd
    · exact hd
  · split
    · next hx =>
      cases h.unique hd hc hx
      exact (h.child c hc).gone hin (h.child c hc).deleteOutbound c.deleted_response
        (h.owner e he c hc hid).1 rfl
    · exact h.child d hd
  · obtain ⟨ha, ho⟩ := h.owner x hx d hd hxid
    split
    · exact ⟨ha, fun hx => ho (DelChild.deleted_state false hx)⟩
    · exact ⟨ha, ho⟩

/-- the end of the exchange -/
theorem DelSys.Answering.finish (h : w.Answering e []) :
    DelSys.Sound { w with
      children := w.children.map fun c =>
        if c.id = e.deletingChildId then
          if c.ike = e.ike then { c with state := .expired, ownAnswered := true }
          else { c with ownAnswered := true }
        else c
      exchanges := w.exchanges.filter fun x => x.deletingChildId != e.deletingChildId } := by
  refine h.sound.mapChildren _ _ (fun d => ?_) (fun d hd => ?_) (fun d hd => ?_) (fun x hx => ?_)
    fun x hx d hd hid => ?_
  · split
    · split <;> exact ⟨rfl, rfl, rfl⟩
    · exact ⟨rfl, rfl, rfl⟩
  · split at hd
    · split at hd
      · cases hd
      · exact hd
    · exact hd
  · have hok := h.sound.child d hd
    split
    · next hid =>
      have hin := h.sound.inbound h.mem hd hid
      have hasked := (h.sound.owner e h.mem d hd hid).1
      have hout : d.outbound = [] := by
        rcases hok.state with hm | hexp
        · rcases h.own d hd hm hid with ho | ⟨s, _, hs⟩
          · exact ho
          · cases hs
        · exact (hok.expired hexp).2
      split
      · exact hok.gone hin hout rfl hasked rfl
      · next hike =>
        refine hok.gone hin hout (hok.state.resolve_left fun hm => ?_) hasked rfl
        exact hike ((h.sound.owner e h.mem d hd hid).2 hm).1.symm
    · next hid =>
      refine hok.exchanges fun _ x hx hxid => ⟨x, List.mem_filter.mpr ⟨hx, ?_⟩, hxid⟩
      rw [hxid]
      exact bne_iff_ne.mpr hid
  · exact h.sound.exLt x (List.mem_filter.mp hx).1
  · obtain ⟨hx, hne⟩ := List.mem_filter.mp hx
    rw [if_neg (by rw [hid]; exact bne_iff_ne.mp hne)]
    exact h.sound.owner x hx d hd hid

end

/-! ## the other events -/

section
variable {w : DelSys}

/-- the DELETE of ours is queued -/
theorem DelChild.Ok.started {c : DelChild} {es : List DelExchange} (h : c.Ok es) (ike : IkeRef) :
    DelChild.Ok (⟨ike, false, c.id⟩ :: es)
      { c.deleteInbound with deleteSent := true, asked := true } where
  spis := h.spis
  inb := Or.inr h.deleteInbound
  outb := h.outb
  state := h.state
  untouched := fun hno => nomatch hno
  expired := fun hx => ⟨h.deleteInbound, (h.expired hx).2⟩
  sent := fun _ _ => ⟨h.deleteInbound, _, List.mem_cons_self, rfl⟩
  own := h.own
  peers := fun hx => ⟨h.deleteInbound, (h.peers hx).2.1, Or.inr rfl⟩

theorem DelSys.start_sound : DelSys.start.Sound where
  ids := List.nodup_nil
  lt := fun c hc => nomatch hc
  exLt := fun e he => nomatch he
  child := fun c hc => nomatch hc
  owner := fun e he => nomatch he
  apart := fun c hc => nomatch hc

end

/-! ## no DELETE of the peer crosses -/

/-- a Child SA whose DELETE of the peer was answered is EXPIRED -/
def DelSys.Closed (w : DelSys) : Prop := ∀ c ∈ w.children, c.peerAnswered = true → c.state = .expired

section
variable {w w' : DelSys}

/-- each Child SA that the peer has deleted comes from one, and an EXPIRED one stays so -/
def DelSys.Quiet (w w' : DelSys) : Prop :=
  ∀ c' ∈ w'.children, c'.peerAnswered = true →
    ∃ c ∈ w.children, c.peerAnswered = true ∧ (c.state = .expired → c'.state = .expired)

theorem DelSys.Closed.quiet (h : w.Closed) (hq : w.Quiet w') : w'.Closed := by
  intro c' hc' hpeer
  obtain ⟨c, hc, hpeer', hstate⟩ := hq c' hc' hpeer
  exact hstate (h c hc hpeer')

theorem DelSys.Quiet.refl (w : DelSys) : w.Quiet w := fun c hc hpeer => ⟨c, hc, hpeer, id⟩

theorem DelSys.Quiet.trans {w'' : DelSys} (h : w.Quiet w') (h' : w'.Quiet w'') : w.Quiet w'' := by
  intro c'' hc'' hpeer''
  obtain ⟨c', hc', hpeer', hstate'⟩ := h' c'' hc'' hpeer''
  obtain ⟨c, hc, hpeer, hstate⟩ := h c' hc' hpeer'
  exact ⟨c, hc, hpeer, fun hexp => hstate' (hstate hexp)⟩

theorem DelSys.Quiet.map (f : DelChild → DelChild) (hchildren : w'.children = w.children.map f)
    (hf : ∀ c, (f c).peerAnswered = c.peerAnswered ∧ (c.state = .expired → (f c).state = .expired)) :
    w.Quiet w' := by
  intro c' hc' hpeer
  rw [hchildren] at hc'
  obtain ⟨c, hc, rfl⟩ := List.mem_map.mp hc'
  rw [(hf c).1] at hpeer
  exact ⟨c, hc, hpeer, (hf c).2⟩

end

/-! ## every run -/

/-- the Child SA is EXPIRED, and nothing of it is in the kernel -/
def DelChild.Gone (c : DelChild) : Prop := c.state = .expired ∧ c.inbound = [] ∧ c.outbound = []

/-- the Child SA is as it was installed -/
def DelChild.Untouched (c : DelChild) : Prop :=
  c.state = .mature ∧ c.inbound = c.mine ∧ c.outbound = c.peer

instance DelChild.Gone.decidable (c : DelChild) : Decidable c.Gone :=
  inferInstanceAs (Decidable (_ ∧ _))

instance DelChild.Untouched.decidable (c : DelChild) : Decidable c.Untouched :=
  inferInstanceAs (Decidable (_ ∧ _))

end Ikev2
