import Racoon2.Lib.Run
import Racoon2.Iked.Sa

/-!
# Rekeying an IKE SA

`ikev2_rekey.c` and `ikev2_addke_rekey.c`: the two exchanges that can be under way on one IKE SA,
the rekey we start and the rekey we answer, each with or without additional key exchanges
(IKE_FOLLOWUP_KE).  Both keep their half-built SA in the slot `new_sa` of the old SA and share the
parked-round fields.

A function of the source is a function of the old SA here; what it finds outside (memory, DH, the
message that came in, the wire) is its argument.  A worker's job is a value in `jobs` until its
callback runs.

* `RekeySa`               the old SA, its slots, and the SAs under construction;
* `responderTail`, `addkeComplete`   the two places that finish a rekey of the peer;
* `initRecvTail`          the place that finishes one of ours;
* `responder_children`    what a responder does with the children, whatever fails.
-/

set_option linter.unusedVariables false

namespace Ikev2

/-! ## SAs under construction -/

/-- the SA a rekey makes, by the side that started the rekey -/
structure Serial where
  ours : Bool
  n : Nat
  deriving DecidableEq, Repr

/-- `struct ikev2_sa` while it is negotiated by a rekey -/
structure NewSa where
  state : State
  /-- in the list of SAs -/
  listed : Bool
  freed : Bool
  /-- `index.i_ck` -/
  spiI : Bytes
  nI : Option Bytes
  nR : Option Bytes
  dhpriv : Option Bytes
  /-- `addke_methods`, one for each of the `addke_nrounds` rounds; 0 is NONE -/
  addke : List Nat
  children : List ChildSa
  deriving DecidableEq, Repr

/-- `ikev2_allocate_sa` -/
def NewSa.allocate (spiI : Bytes) : NewSa :=
  { state := .idling, listed := false, freed := false, spiI, nI := none, nR := none, dhpriv := none,
    addke := [], children := [] }

/-- `negotiated_sa->addke`: the method of ADDKE1.  The rekeys ask this one whether there are rounds -/
def addke1 (addke : List Nat) : Nat := addke.headD 0

/-- the methods `ikev2_rekey_responder_addke_round` expects: that of ADDKE1 where a round has none -/
def roundMethods (addke : List Nat) : List Nat := addke.map fun m => if m = 0 then addke1 addke else m

theorem roundMethods_length (addke : List Nat) : (roundMethods addke).length = addke.length :=
  List.length_map _

/-- `ikev2_noncecmp(n1, n2) < 0` -/
def nonceLt : Bytes → Bytes → Bool
  | [], [] => false
  | [], _ :: _ => true
  | _ :: _, [] => false
  | a :: n1, b :: n2 => if a = b then nonceLt n1 n2 else decide (a < b)

/-- the lower one of the nonces of an exchange -/
def lowNonce (n_i n_r : Bytes) : Bytes := if nonceLt n_i n_r then n_i else n_r

/-- `addke_rekey_link`, with the exchange it was minted for -/
structure Link where
  bytes : Bytes
  mintedFor : Serial
  deriving DecidableEq, Repr

/-- `struct ikev2_rekey_init_recv_ctx`; `request` is the stub the request was sent with -/
structure InitRecvCtx where
  request : Serial
  newSa : Serial
  deferred : Bool
  round : Nat
  nrounds : Nat
  final : Bool
  sk : Option Bytes
  gIrReady : Bool
  deriving DecidableEq, Repr

/-- a job of a worker, by its callback -/
inductive RekeyJob where
  /-- `ikev2_rekey_ikesa_init_dh_done` -/
  | initGen (newSa : Serial)
  /-- `ikev2_rekey_ikesa_responder_dh_done` -/
  | respGencmp (newSa : Serial)
  /-- `ikev2_rekey_ikesa_init_recv_dh_done` -/
  | initCompute (ctx : InitRecvCtx)
  deriving DecidableEq, Repr

/-- what a rekey request of ours carries, with the private half of its KE -/
structure Sent where
  stub : Serial
  spiI : Bytes
  nI : Bytes
  dhpriv : Bytes
  deriving DecidableEq, Repr

/-- the old SA -/
structure RekeySa where
  state : State
  disposed : Bool
  rekeyInprogress : Bool
  rekeyDuplicate : Bool
  rekeyDuplicateSerial : Option Serial
  newSa : Option Serial
  addkePending : Bool
  addkeRound : Nat
  addkeSk : Option Bytes
  addkeLink : Option Link
  /-- the parked exchange of the peer, by its SA -/
  addkeComplete : Option Serial
  /-- the parked exchange of ours -/
  addkeInit : Option InitRecvCtx
  /-- the exchange `addke_rekey_timer` was armed for -/
  timer : Option Serial
  children : List ChildSa
  sas : Serial → Option NewSa
  nextSerial : Nat
  /-- the request of ours that waits for its response -/
  request : Option Sent
  jobs : List RekeyJob
  /-- a new SA took over -/
  replaced : Bool
  /-- each response to a request of ours, and the SA it was applied to -/
  applied : List (Sent × Option (Serial × NewSa))
  /-- each SA that an exchange completed, killed, freed or pushed out of its slot -/
  fates : List (Serial × Serial)

def RekeySa.start (children : List ChildSa) : RekeySa :=
  { state := .established, disposed := false, rekeyInprogress := false, rekeyDuplicate := false,
    rekeyDuplicateSerial := none, newSa := none, addkePending := false, addkeRound := 0,
    addkeSk := none, addkeLink := none, addkeComplete := none, addkeInit := none, timer := none,
    children, sas := fun _ => none, nextSerial := 0, request := none, jobs := [], replaced := false,
    applied := [], fates := [] }

section
variable (w : RekeySa)

def RekeySa.setSa (s : Serial) (f : NewSa → NewSa) : RekeySa :=
  { w with sas := fun t => if t = s then (w.sas s).map f else w.sas t }

/-- `ikev2_set_state(sa, IKEV2_STATE_DEAD)` on behalf of the exchange `x` -/
def RekeySa.kill (x s : Serial) : RekeySa :=
  { w.setSa s fun sa => { sa with state := .dead } with fates := (x, s) :: w.fates }

/-- `ikev2_dispose_sa` of a stub -/
def RekeySa.free (x s : Serial) : RekeySa :=
  { w.setSa s fun sa => { sa with state := .dead, freed := true } with fates := (x, s) :: w.fates }

/-- the slot `new_sa` is written on behalf of the exchange `x`; what was there is out of reach -/
def RekeySa.setSlot (x : Serial) (s : Option Serial) : RekeySa :=
  { w with newSa := s, fates := (w.newSa.toList.filter fun t => some t != s).map (x, ·) ++ w.fates }

/-! ## children -/

/-- the children `ikev2_child_adopt` moves -/
def ChildState.adopts : ChildState → Bool
  | .waitResponse => false
  | .requestSent => false
  | _ => true

/-- `ikev2_child_adopt` -/
def RekeySa.childAdopt (s : Serial) : RekeySa :=
  { w.setSa s fun sa => { sa with
      children := sa.children ++ w.children.filter fun c => c.state.adopts } with
    children := w.children.filter fun c => !c.state.adopts }

/-! ## the rekey we answer -/

/-- what the tail of the responder meets -/
structure TailEnv where
  ke : Bool
  link : Option Bytes
  proposal : Bool
  construct : Bool
  transmit : Bool
  skeyseed : Bool
  keys : Bool
  deriving DecidableEq, Repr

def TailEnv.sends (env : TailEnv) : Bool := env.proposal && env.construct && env.transmit

/-- the SA `s` is complete, on behalf of the exchange `x` -/
def RekeySa.establish (x s : Serial) : RekeySa :=
  { w.setSa s fun sa => { sa with listed := true, state := .established } with
    fates := (x, s) :: w.fates }

/-- `ikev2_rekey_responder_finish`, after `ikev2_compute_keys` -/
def RekeySa.responderFinish (x s : Serial) : RekeySa :=
  if w.rekeyDuplicate then w.establish x s else (w.childAdopt s).establish x s

/-- the slots `ikev2_rekey_responder_tail` fills for a rekey with additional key exchanges -/
def RekeySa.defer (s : Serial) (link : Bytes) : RekeySa :=
  { w.setSlot s (some s) with
    addkePending := true, addkeRound := 0, addkeSk := none, addkeLink := some ⟨link, s⟩ }

/-- the parked exchange of the peer is replaced, and the timer with it -/
def RekeySa.park (s : Serial) : RekeySa :=
  { w with
    addkeComplete := some s, timer := some s
    fates := (w.addkeComplete.toList.filter fun t => t != s).map (s, ·) ++ w.fates }

/-- `ikev2_rekey_responder_tail`; true if the response went out -/
def responderTail (s : Serial) (addke : List Nat) (env : TailEnv) : RekeySa × Bool :=
  if !env.ke then (w.kill s s, false)
  else if addke1 addke ≠ 0 then
    match env.link with
    | none => ({ w with addkePending := true, addkeRound := 0, addkeSk := none,
                        addkeLink := none }.kill s s, false)
    | some link =>
      if env.sends then ((w.defer s link).park s, true)
      else ((w.defer s link).kill s s, false)
  else if !(env.skeyseed && env.keys) then (w.kill s s, false)
  else if env.sends then ({ w.responderFinish s s with replaced := true }, true)
  else ((w.responderFinish s s).kill s s, false)

/-- `ikev2_rekey_ikesa_responder_dh_done`, for a live old SA; `rc` if the job succeeded -/
def responderDhDone (s : Serial) (rc : Bool) (env : TailEnv) : RekeySa × Bool :=
  match w.sas s with
  | none => (w, false)
  | some sa =>
    if w.state = .dead ∨ sa.state = .dead then (w, false)
    else if !rc then (w.kill s s, false)
    else responderTail w s sa.addke env

/-- `ikev2_rekey_responder_addke_complete`, on behalf of the exchange `x`; true if the response of
the last round went out -/
def addkeComplete (x : Serial) (env : TailEnv) : RekeySa × Bool :=
  match w.addkeComplete with
  | none => (w, false)
  | some s =>
    let w := { w with
      addkeComplete := none, timer := none, addkePending := false
      fates := (w.addkeInit.toList.map InitRecvCtx.newSa).map (x, ·) ++ w.fates }
    if !(env.construct && env.transmit) then
      ({ (w.kill x s).setSlot x none with addkeSk := none, rekeyInprogress := false }, false)
    else if !(env.skeyseed && env.keys) then
      ({ (w.kill x s).setSlot x none with
          addkeSk := none, addkeRound := 0, rekeyInprogress := false }, true)
    else
      ({ (w.responderFinish x s).setSlot x none with
          addkeSk := none, addkeRound := 0, replaced := true }, true)

/-- what `ikev2_rekey_ikesa_responder` makes of a request -/
inductive RequestOutcome where
  /-- an error is answered, or the request is dropped, before the new SA is made -/
  | refused
  /-- `goto fail` after the marks are set -/
  | failed
  | submitted (spiI nI nR : Bytes) (addke : List Nat)
  deriving DecidableEq, Repr

/-- `ikev2_create_sa` and the marks of the old SA -/
def RekeySa.answer (sa : NewSa) : RekeySa :=
  { w with
    sas := fun t => if t = ⟨false, w.nextSerial⟩ then some sa else w.sas t
    nextSerial := w.nextSerial + 1
    rekeyDuplicate := w.rekeyDuplicate || w.rekeyInprogress
    rekeyDuplicateSerial :=
      if w.rekeyInprogress then some ⟨false, w.nextSerial⟩ else w.rekeyDuplicateSerial
    rekeyInprogress := true }

/-- `ikev2_rekey_ikesa_responder` -/
def rekeyResponder : RequestOutcome → RekeySa
  | .refused => w
  | .failed =>
    if w.state = .established ∨ w.state = .dying then
      (w.answer { NewSa.allocate [] with listed := true }).kill ⟨false, w.nextSerial⟩
        ⟨false, w.nextSerial⟩
    else w
  | .submitted spiI nI nR addke =>
    if w.state = .established ∨ w.state = .dying then
      { w.answer { NewSa.allocate spiI with listed := true, nI := some nI, nR := some nR, addke } with
        jobs := .respGencmp ⟨false, w.nextSerial⟩ :: w.jobs }
    else w

/-- what a round of IKE_FOLLOWUP_KE of the peer meets -/
structure RoundEnv where
  link : Bytes
  method : Nat
  /-- the key exchange, and `ss` it gives -/
  ss : Option Bytes
  newLink : Option Bytes
  construct : Bool
  transmit : Bool
  deriving DecidableEq, Repr

/-- the code goes through a null pointer, on behalf of the exchange `x` -/
def RekeySa.crash (x : Serial) : RekeySa := { w.setSlot x none with disposed := true }

/-- the round is not the last one: its response and the commit behind it -/
def addkeRoundMore (env : RoundEnv) (link : Link) (ss : Bytes) : RekeySa :=
  match env.newLink, w.addkeComplete with
  | none, _ => w
  | some fresh, none => if env.construct then w.crash link.mintedFor else w
  | some fresh, some s =>
    if env.construct && env.transmit then
      { w with
        addkeSk := some (w.addkeSk.getD [] ++ ss), addkeLink := some ⟨fresh, link.mintedFor⟩
        addkeRound := w.addkeRound + 1, timer := some link.mintedFor }
    else w

/-- `ikev2_rekey_responder_addke_round`, and `addkeComplete` after the last round -/
def addkeRound (env : RoundEnv) (tail : TailEnv) (link : Link) (ss : Bytes) : RekeySa :=
  match w.newSa.bind w.sas with
  | none => w
  | some sa =>
    if (roundMethods sa.addke)[w.addkeRound]? = some env.method then
      if w.addkeRound + 1 < sa.addke.length then addkeRoundMore w env link ss
      else (addkeComplete { w with addkeSk := some (w.addkeSk.getD [] ++ ss) } link.mintedFor tail).1
    else w

/-- `ikev2_followup_ke_recv` for a request with the link of the parked rekey -/
def rekeyFollowupRequest (env : RoundEnv) (tail : TailEnv) : RekeySa :=
  match w.addkeLink, env.ss with
  | some link, some ss =>
    if w.addkePending && link.bytes == env.link then addkeRound w env tail link ss else w
  | _, _ => w

/-! ## the rekey we start -/

/-- `ikev2_rekey_init_abort` -/
def initAbort (s : Option Serial) : RekeySa :=
  let w := { w with newSa := if w.newSa = s then none else w.newSa, rekeyInprogress := false }
  match s with
  | none => w
  | some s => w.free s s

/-- what `ikev2_rekey_ikesa_init_send` meets -/
inductive SendOutcome where
  /-- no memory for the stub -/
  | nomem
  /-- the stub is there, and something fails before its key pair is asked for -/
  | failed (spiI : Bytes)
  | submitted (spiI : Bytes)
  deriving DecidableEq, Repr

/-- the stub, in its slot -/
def RekeySa.stub (spiI : Bytes) : RekeySa :=
  { w.setSlot ⟨true, w.nextSerial⟩ (some ⟨true, w.nextSerial⟩) with
    sas := fun t => if t = ⟨true, w.nextSerial⟩ then some (NewSa.allocate spiI) else w.sas t
    nextSerial := w.nextSerial + 1 }

/-- `ikev2_rekey_ikesa_init_send` -/
def initSend : SendOutcome → RekeySa
  | .nomem => initAbort w none
  | .failed spiI => initAbort (w.stub spiI) (some ⟨true, w.nextSerial⟩)
  | .submitted spiI => { w.stub spiI with jobs := .initGen ⟨true, w.nextSerial⟩ :: w.jobs }

/-- `rekey_ikesa_callback(REQUEST_CALLBACK_CONTINUE)` -/
def callbackContinue (o : SendOutcome) : RekeySa :=
  if w.rekeyInprogress then w else initSend { w with rekeyInprogress := true } o

/-- `ikev2_rekey_init_send_tail`; `n_i` if the request could be built and sent -/
def initSendTail (s : Serial) (sa : NewSa) (dhpriv : Bytes) : Option Bytes → RekeySa
  | none => initAbort w (some s)
  | some n_i => { w.setSa s fun sa => { sa with nI := some n_i, dhpriv := some dhpriv } with
      request := some ⟨s, sa.spiI, n_i, dhpriv⟩ }

/-- `ikev2_rekey_ikesa_init_dh_done`: `dhpriv` if the job succeeded, `expired` if the request is
given up -/
def initDhDone (s : Serial) (dhpriv : Option Bytes) (expired : Bool) (n_i : Option Bytes) : RekeySa :=
  if w.newSa ≠ some s then w
  else if w.state = .dying ∨ w.state = .dead ∨ expired then w
  else
    match dhpriv, w.sas s with
    | some dhpriv, some sa => initSendTail w s sa dhpriv n_i
    | _, _ => initAbort w (some s)

/-- the park of ours ends; the flag and the timer are those of the other park too -/
def RekeySa.unpark (x : Serial) : RekeySa :=
  { w with
    addkeInit := none, timer := none, addkePending := false
    fates := w.addkeComplete.toList.map (x, ·) ++ w.fates }

/-- `ikev2_rekey_ikesa_init_abandon` -/
def initAbandon (x : Serial) : RekeySa :=
  match w.addkeInit with
  | none => { w.unpark x with rekeyInprogress := false }
  | some ctx => { ((w.unpark x).setSlot x none).free x ctx.newSa with rekeyInprogress := false }

/-- the parked exchange of the peer is given up -/
def dropParked (x : Serial) : RekeySa :=
  match w.addkeComplete with
  | none => w
  | some s => { w.kill x s with addkeComplete := none, addkePending := false, timer := none }

/-- the end of `ikev2_rekey_abandon_parked` and of `ikev2_addke_rekey_timeout` -/
def dropSlot (x : Serial) : RekeySa :=
  { (dropParked w x).setSlot x none with rekeyInprogress := false }

/-- `ikev2_rekey_abandon_parked` -/
def abandonParked (x : Serial) : RekeySa :=
  if w.addkePending && w.addkeInit.isSome then dropSlot (initAbandon w x) x else dropSlot w x

/-- `ikev2_addke_rekey_timeout` -/
def addkeTimeout : RekeySa :=
  match w.timer with
  | none => w
  | some x =>
    let w := { w with timer := none, addkePending := false, addkeRound := 0, addkeSk := none }
    if w.addkeInit.isSome then dropSlot (initAbandon w x) x else dropSlot w x

/-- what `ikev2_rekey_ikesa_init_recv` makes of a response -/
inductive RecvOutcome where
  /-- an error notify, a payload missing or malformed, no proposal: the new SA is not looked at -/
  | refused
  /-- the response is applied, and something fails before anything is parked -/
  | failed (nR : Bytes) (addke : List Nat)
  /-- the first IKE_FOLLOWUP_KE request cannot be sent -/
  | followupFailed (nR : Bytes) (addke : List Nat)
  | submitFailed (nR : Bytes) (addke : List Nat)
  | submitted (nR : Bytes) (addke : List Nat)
  deriving DecidableEq, Repr

/-- `update new IKE_SA` of `ikev2_rekey_ikesa_init_recv`: the SA in the slot gets the response -/
def RekeySa.apply (sent : Sent) (nR : Bytes) (addke : List Nat) : RekeySa :=
  { (match w.newSa with
      | none => w.crash sent.stub
      | some s => w.setSa s fun sa => { sa with nR := some nR, addke }) with
    applied := (sent, w.newSa.bind fun s => (w.sas s).map (s, ·)) :: w.applied }

/-- the context of the job, for the SA in the slot -/
def InitRecvCtx.fresh (sent : Sent) (s : Serial) (addke : List Nat) : InitRecvCtx :=
  { request := sent.stub, newSa := s, deferred := addke1 addke != 0, round := 0,
    nrounds := addke.length, final := false, sk := none, gIrReady := false }

/-- the job is submitted, and with additional key exchanges the context is parked -/
def RekeySa.compute (ctx : InitRecvCtx) : RekeySa :=
  if ctx.deferred then
    { w with addkeInit := some ctx, addkePending := true, jobs := .initCompute ctx :: w.jobs }
  else { w with jobs := .initCompute ctx :: w.jobs }

/-- `ikev2_rekey_ikesa_init_recv` -/
def initRecv (sent : Sent) : RecvOutcome → RekeySa
  | .refused => { w with request := none }
  | .failed nR addke => { w.apply sent nR addke with request := none }
  | .followupFailed nR addke =>
    let w := { w.apply sent nR addke with request := none }
    { w.unpark sent.stub with timer := w.timer }
  | .submitFailed nR addke =>
    let w := { w.apply sent nR addke with request := none }
    if addke1 addke = 0 then w else w.unpark sent.stub
  | .submitted nR addke =>
    match w.newSa with
    | none => { w.apply sent nR addke with request := none }
    | some s => { w.apply sent nR addke with request := none }.compute (.fresh sent s addke)

/-- `ikev2_find_sa_by_serial` -/
def RekeySa.listedSa (s : Serial) : Option NewSa := (w.sas s).filter fun sa => sa.listed

/-- the end of `ikev2_rekey_ikesa_init_recv_tail`: the SA that lives on gets the children -/
def initRekeyDone (s : Serial) (sa : NewSa) : RekeySa :=
  match w.rekeyDuplicate, w.rekeyDuplicateSerial.bind w.listedSa, w.rekeyDuplicateSerial with
  | true, some dup, some d =>
    if nonceLt (lowNonce (sa.nI.getD []) (sa.nR.getD [])) (lowNonce (dup.nI.getD []) (dup.nR.getD []))
    then w.childAdopt d
    else w.childAdopt s
  | _, _, _ => w.childAdopt s

/-- `ikev2_rekey_ikesa_init_recv_tail` once every secret is there; `keys` if they could be derived -/
def initRecvKeys (ctx : InitRecvCtx) (keys : Bool) : RekeySa :=
  if !keys then w
  else
    match w.sas ctx.newSa with
    | none => w
    | some sa =>
      { initRekeyDone ((w.setSlot ctx.request none).establish ctx.request ctx.newSa) ctx.newSa sa
        with replaced := true }

/-- the followup-wait timer, if it is not armed -/
def RekeySa.armTimer (x : Serial) : RekeySa := { w with timer := some (w.timer.getD x) }

/-- `ikev2_rekey_ikesa_init_recv_tail` -/
def initRecvTail (ctx : InitRecvCtx) (keys : Bool) : RekeySa :=
  if ctx.deferred then
    if (decide (1 < ctx.nrounds) && !ctx.final) || ctx.sk.isNone then
      { w.armTimer ctx.request with addkeInit := w.addkeInit.map fun c =>
          if c.request = ctx.request then { c with gIrReady := true } else c }
    else initRecvKeys (w.unpark ctx.request) ctx keys
  else initRecvKeys w ctx keys

/-- the context the callback holds is the parked one -/
def RekeySa.isParked (ctx : InitRecvCtx) : Bool :=
  match w.addkeInit with
  | none => false
  | some c => c.request == ctx.request

/-- `ikev2_rekey_ikesa_init_recv_dh_done` -/
def initRecvDhDone (ctx : InitRecvCtx) (rc keys : Bool) : RekeySa :=
  if w.newSa ≠ some ctx.newSa then
    if w.isParked ctx then w.unpark ctx.request else w
  else if w.state = .dying ∨ w.state = .dead ∨ !rc then
    if w.isParked ctx then initAbandon w ctx.request else w
  else
    match w.addkeInit with
    | none => initRecvTail w ctx keys
    | some c => initRecvTail w (if c.request = ctx.request then c else ctx) keys

/-- `ikev2_rekey_ikesa_init_addke_complete` with a secret: the round is not the last one -/
def initRoundMore (ctx : InitRecvCtx) (next : Bool) : RekeySa :=
  if next then
    { w with addkeInit := some { ctx with round := ctx.round + 1 }, timer := some ctx.request }
  else abandonParked { w with addkeInit := some ctx, timer := none } ctx.request

/-- `ikev2_followup_ke_recv` for the response to our IKE_FOLLOWUP_KE request: `ss` if the key
exchange of the round succeeds, `next` if the next round can be started -/
def rekeyFollowupResponse (ss : Option Bytes) (next keys : Bool) : RekeySa :=
  match w.addkeInit with
  | none => w
  | some ctx =>
    if w.addkePending then
      match ss with
      | none => abandonParked { w with timer := none } ctx.request
      | some ss =>
        let ctx := { ctx with sk := some (ctx.sk.getD [] ++ ss) }
        if ctx.round + 1 < ctx.nrounds then initRoundMore w ctx next
        else if ctx.gIrReady then
          initRecvTail { w with timer := none, addkeInit := some { ctx with final := true } }
            { ctx with final := true } keys
        else { w with timer := none, addkeInit := some { ctx with final := true } }
    else w

/-! ## the events -/

inductive RekeyEvent where
  | start (o : SendOutcome)
  | initDhDone (s : Serial) (dhpriv : Option Bytes) (expired : Bool) (n_i : Option Bytes)
  | response (o : RecvOutcome)
  | initRecvDhDone (ctx : InitRecvCtx) (rc keys : Bool)
  | followupResponse (ss : Option Bytes) (next keys : Bool)
  | request (o : RequestOutcome)
  | responderDhDone (s : Serial) (rc : Bool) (env : TailEnv)
  | followupRequest (env : RoundEnv) (tail : TailEnv)
  | timeout
  /-- the periodic task frees a dead SA -/
  | reap (s : Serial)
  /-- the old SA expires, dies, or is deleted -/
  | setState (st : State)
  /-- `ikev2_dispose_sa` of the old SA -/
  | dispose
  deriving DecidableEq, Repr

/-- the response to the request that is out -/
def RekeySa.response (o : RecvOutcome) : RekeySa :=
  match w.request with
  | none => w
  | some sent => initRecv w sent o

/-- the old SA is gone: what is in its slots dies with it, and no callback finds it -/
def RekeySa.dispose : RekeySa :=
  { (w.newSa.toList ++ w.addkeComplete.toList ++ w.addkeInit.toList.map InitRecvCtx.newSa).foldl
      (fun w s => w.setSa s fun sa => { sa with state := .dead }) w with
    disposed := true, newSa := none, addkeInit := none, addkeComplete := none,
    addkePending := false, timer := none, request := none, jobs := [] }

/-- `ikev2_sa_periodic_task`, for one SA of the list -/
def RekeySa.reap (s : Serial) : RekeySa :=
  w.setSa s fun sa =>
    if sa.state = .dead ∧ sa.children = [] then { sa with listed := false, freed := true } else sa

/-- a job is done and its callback runs -/
def RekeySa.done (job : RekeyJob) (callback : RekeySa → RekeySa) : RekeySa :=
  if job ∈ w.jobs then callback { w with jobs := w.jobs.erase job } else w

def rekeyStep : RekeyEvent → RekeySa := fun ev =>
  if w.disposed then w
  else
    match ev with
    | .start o => callbackContinue w o
    | .initDhDone s dhpriv expired n_i =>
      w.done (.initGen s) fun w => initDhDone w s dhpriv expired n_i
    | .response o => w.response o
    | .initRecvDhDone ctx rc keys =>
      w.done (.initCompute ctx) fun w => initRecvDhDone w ctx rc keys
    | .followupResponse ss next keys => rekeyFollowupResponse w ss next keys
    | .request o => rekeyResponder w o
    | .responderDhDone s rc env =>
      w.done (.respGencmp s) fun w => (responderDhDone w s rc env).1
    | .followupRequest env tail => rekeyFollowupRequest w env tail
    | .timeout => addkeTimeout w
    | .reap s => w.reap s
    | .setState st => { w with state := st }
    | .dispose => w.dispose

end

/-! ## the children of a rekey we answer -/

section
variable {w w' : RekeySa}

/-- the children of the old SA (`none`) or of a new one -/
def RekeySa.childrenOf (w : RekeySa) : Option Serial → List ChildSa
  | none => w.children
  | some s => (w.sas s).elim [] NewSa.children

def RekeySa.stateOf (w : RekeySa) : Option Serial → State
  | none => w.state
  | some s => (w.sas s).elim .dead NewSa.state

/-- a child is in the list of one SA only, and once -/
def RekeySa.OneHolder (w : RekeySa) : Prop :=
  ∀ o o', ∀ c ∈ w.childrenOf o, ∀ c' ∈ w.childrenOf o', c.childId = c'.childId → o = o' ∧ c = c'

/-- every child of the old SA is in the list of one SA, which is alive; if the response was not
sent, it is the old one -/
def RekeySa.AllOrNothing (w w' : RekeySa) (sent : Bool) : Prop :=
  ∀ c ∈ w.children, ∃ o, c ∈ w'.childrenOf o ∧ w'.stateOf o ≠ .dead
    ∧ (∀ o', ∀ c' ∈ w'.childrenOf o', c'.childId = c.childId → o' = o) ∧ (sent = false → o = none)

/-- no list changes -/
def RekeySa.SameLists (w w' : RekeySa) : Prop :=
  w'.state = w.state ∧ ∀ o, w'.childrenOf o = w.childrenOf o

theorem RekeySa.SameLists.trans {w'' : RekeySa} (h : w.SameLists w') (h' : w'.SameLists w'') :
    w.SameLists w'' :=
  ⟨h'.1.trans h.1, fun o => (h'.2 o).trans (h.2 o)⟩

theorem RekeySa.setSa_lists (w : RekeySa) (s : Serial) {f : NewSa → NewSa}
    (hf : ∀ sa, (f sa).children = sa.children) : w.SameLists (w.setSa s f) := by
  refine ⟨rfl, fun o => ?_⟩
  cases o with
  | none => rfl
  | some t =>
    show Option.elim (if t = s then (w.sas s).map f else w.sas t) [] NewSa.children = _
    split
    · rename_i hts
      rw [hts]
      cases hs : w.sas s with
      | none => simp [RekeySa.childrenOf, hs]
      | some sa => simp [RekeySa.childrenOf, hs, hf]
    · rfl

theorem RekeySa.kill_lists (w : RekeySa) (x s : Serial) : w.SameLists (w.kill x s) :=
  w.setSa_lists s fun _ => rfl

theorem RekeySa.SameLists.allOrNothing (h : w.SameLists w') (hone : w.OneHolder)
    (hlive : w.state ≠ .dead) (sent : Bool) : w.AllOrNothing w' sent := by
  intro c hc
  refine ⟨none, ?_, ?_, fun o' c' hc' hid => ?_, fun _ => rfl⟩
  · rw [h.2 none]
    exact hc
  · show w'.state ≠ .dead
    rw [h.1]
    exact hlive
  · rw [h.2 o'] at hc'
    exact (hone o' none c' hc' c hc hid).1

/-- what `ikev2_child_adopt` leaves where -/
theorem RekeySa.childAdopt_lists {s : Serial} {sa : NewSa} (hs : w.sas s = some sa) (o : Option Serial) :
    (w.childAdopt s).childrenOf o =
      if o = none then w.children.filter fun c => !c.state.adopts
      else if o = some s then sa.children ++ w.children.filter fun c => c.state.adopts
      else w.childrenOf o := by
  cases o with
  | none => rfl
  | some t =>
    rw [if_neg (by simp)]
    show Option.elim (if t = s then (w.sas s).map _ else w.sas t) [] NewSa.children = _
    by_cases hts : t = s
    · rw [if_pos hts, if_pos (congrArg some hts), hs]
      rfl
    · rw [if_neg hts, if_neg (by simpa using hts)]
      rfl

/-- a child of the old SA is afterwards with the one SA or the other, by its state -/
theorem RekeySa.childAdopt_holder {s : Serial} {sa : NewSa} (hs : w.sas s = some sa)
    (hone : w.OneHolder) {c : ChildSa} (hc : c ∈ w.children) :
    c ∈ (w.childAdopt s).childrenOf (if c.state.adopts then some s else none)
      ∧ ∀ o', ∀ c' ∈ (w.childAdopt s).childrenOf o', c'.childId = c.childId →
          o' = if c.state.adopts then some s else none := by
  refine ⟨?_, fun o' c' hc' hid => ?_⟩
  · rw [RekeySa.childAdopt_lists hs]
    cases hst : c.state.adopts with
    | true => simp [hc, hst]
    | false => simp [hc, hst]
  · rw [RekeySa.childAdopt_lists hs] at hc'
    split at hc'
    · rename_i ho
      obtain ⟨hmem, hst⟩ := List.mem_filter.mp hc'
      rw [← (hone none none c' hmem c hc hid).2, ho, if_neg (by simpa using hst)]
    · rename_i ho
      split at hc'
      · rename_i hos
        rcases List.mem_append.mp hc' with hmem | hmem
        · -- a child that the new SA had before has another id
          have hin : c' ∈ w.childrenOf (some s) := by
            show c' ∈ (w.sas s).elim [] NewSa.children
            rw [hs]
            exact hmem
          exact absurd (hone (some s) none c' hin c hc hid).1 (by simp)
        · obtain ⟨hmem, hst⟩ := List.mem_filter.mp hmem
          rw [← (hone none none c' hmem c hc hid).2, hos, if_pos hst]
      · exact absurd (hone o' none c' hc' c hc hid).1 ho

theorem RekeySa.establish_lists (w : RekeySa) (x s : Serial) : w.SameLists (w.establish x s) :=
  w.setSa_lists s fun _ => rfl

/-- the children after `ikev2_rekey_responder_finish`, if nothing is done to the lists after it -/
theorem responderFinish_allOrNothing {s : Serial} {sa : NewSa} (hs : w.sas s = some sa)
    (hone : w.OneHolder) (hlive : w.state ≠ .dead) (x : Serial)
    (h : (w.responderFinish x s).SameLists w') (hst : w'.stateOf (some s) ≠ .dead) :
    w.AllOrNothing w' true := by
  unfold RekeySa.responderFinish at h
  split at h
  · exact ((w.establish_lists x s).trans h).allOrNothing hone hlive true
  · have hsame := ((w.childAdopt s).establish_lists x s).trans h
    intro c hc
    obtain ⟨hmem, honly⟩ := RekeySa.childAdopt_holder hs hone hc
    refine ⟨if c.state.adopts then some s else none, ?_, ?_, fun o' c' hc' hid => ?_,
      fun hno => nomatch hno⟩
    · rw [hsame.2]
      exact hmem
    · split
      · exact hst
      · show w'.state ≠ .dead
        rw [hsame.1]
        exact hlive
    · rw [hsame.2] at hc'
      exact honly o' c' hc' hid

/-- the state of the SA that was just completed -/
theorem responderFinish_state {s : Serial} {sa : NewSa} (hs : w.sas s = some sa) (x : Serial) :
    (w.responderFinish x s).stateOf (some s) = .established := by
  unfold RekeySa.responderFinish
  split
  · simp [RekeySa.stateOf, RekeySa.establish, RekeySa.setSa, hs]
  · simp [RekeySa.stateOf, RekeySa.establish, RekeySa.childAdopt, RekeySa.setSa, hs]

/-- the children were moved, and then the new SA was killed -/
theorem responderFinish_killed {s : Serial} {sa : NewSa} (hs : w.sas s = some sa) (x : Serial)
    (hdup : w.rekeyDuplicate = false) {c : ChildSa} (hc : c ∈ w.children)
    (hadopt : c.state.adopts = true) (hone : w.OneHolder) :
    ¬ w.AllOrNothing ((w.responderFinish x s).kill x s) false := by
  intro hall
  obtain ⟨o, hmem, -, -, hold⟩ := hall c hc
  unfold RekeySa.responderFinish at hmem
  rw [hdup, if_neg (by simp), hold rfl, (RekeySa.kill_lists _ x s).2,
    ((w.childAdopt s).establish_lists x s).2] at hmem
  have := (RekeySa.childAdopt_holder hs hone hc).2 none c hmem rfl
  rw [if_pos hadopt] at this
  exact nomatch this

/-- a rekey without a method of ADDKE1 whose children are moved and whose response then cannot be
sent -/
def RekeySa.AdoptsUnsent (w : RekeySa) (s : Serial) (rc : Bool) (env : TailEnv) : Prop :=
  ∃ sa, w.sas s = some sa ∧ sa.state ≠ .dead ∧ rc = true ∧ env.ke = true ∧ addke1 sa.addke = 0
    ∧ (env.skeyseed && env.keys) = true ∧ env.sends = false ∧ w.rekeyDuplicate = false
    ∧ ∃ c ∈ w.children, c.state.adopts = true

theorem RekeySa.setSlot_lists (w : RekeySa) (x : Serial) (o : Option Serial) :
    w.SameLists (w.setSlot x o) := by
  refine ⟨rfl, fun o => ?_⟩
  cases o <;> rfl

/-- no child is moved -/
theorem responderFinish_lists {s : Serial} {sa : NewSa} (hs : w.sas s = some sa) (x : Serial)
    (hno : w.rekeyDuplicate = true ∨ ∀ c ∈ w.children, c.state.adopts = false) :
    w.SameLists (w.responderFinish x s) := by
  unfold RekeySa.responderFinish
  rcases hno with hdup | hno
  · rw [if_pos hdup]
    exact w.establish_lists x s
  · split
    · exact w.establish_lists x s
    · suffices hadopt : w.SameLists (w.childAdopt s) from
        hadopt.trans ((w.childAdopt s).establish_lists x s)
      refine ⟨rfl, fun o => ?_⟩
      rw [RekeySa.childAdopt_lists hs]
      have hmoved : (w.children.filter fun c => c.state.adopts) = [] :=
        List.filter_eq_nil_iff.mpr fun c hc => by simp [hno c hc]
      have hkept : (w.children.filter fun c => !c.state.adopts) = w.children :=
        List.filter_eq_self.mpr fun c hc => by simp [hno c hc]
      rw [hmoved, hkept]
      split
      · rename_i ho
        rw [ho]
        rfl
      · split
        · rename_i ho
          simp [ho, RekeySa.childrenOf, hs]
        · rfl

/-- a field that no list depends on -/
theorem RekeySa.SameLists.refl (w : RekeySa) : w.SameLists w := ⟨rfl, fun _ => rfl⟩

theorem responderTail_children {s : Serial} {sa : NewSa} (hs : w.sas s = some sa)
    (hstate : sa.state ≠ .dead) (hone : w.OneHolder) (hlive : w.state ≠ .dead) (env : TailEnv) :
    w.AllOrNothing (responderTail w s sa.addke env).1 (responderTail w s sa.addke env).2
      ↔ ¬ w.AdoptsUnsent s true env := by
  have hkill : ∀ u : RekeySa, w.SameLists u → ∀ x sent, w.AllOrNothing (u.kill x s) sent :=
    fun u hu x sent => (hu.trans (u.kill_lists x s)).allOrNothing hone hlive sent
  have huns : w.AdoptsUnsent s true env → env.ke = true ∧ addke1 sa.addke = 0
      ∧ (env.skeyseed && env.keys) = true ∧ env.sends = false ∧ w.rekeyDuplicate = false
      ∧ ∃ c ∈ w.children, c.state.adopts = true := by
    rintro ⟨sa', hs', -, -, hrest⟩
    rw [hs] at hs'
    cases hs'
    exact hrest
  unfold responderTail
  split
  · rename_i hke
    refine iff_of_true (hkill w (.refl w) s false) fun h => ?_
    simp [(huns h).1] at hke
  split
  · rename_i haddke
    refine iff_of_true ?_ fun h => haddke (huns h).2.1
    cases env.link with
    | none => exact hkill _ ⟨rfl, fun o => by cases o <;> rfl⟩ s false
    | some link =>
      have hdefer : w.SameLists (w.defer s link) := w.setSlot_lists s (some s)
      dsimp only
      split
      · exact (hdefer.trans ⟨rfl, fun o => by cases o <;> rfl⟩).allOrNothing hone hlive true
      · exact hkill _ hdefer s false
  rename_i hke haddke
  split
  · rename_i hkeys
    refine iff_of_true (hkill w (.refl w) s false) fun h => ?_
    simp [(huns h).2.2.1] at hkeys
  rename_i hkeys
  split
  · rename_i hsends
    refine iff_of_true ?_ fun h => by simp [(huns h).2.2.2.1] at hsends
    refine responderFinish_allOrNothing hs hone hlive s ⟨rfl, fun o => by cases o <;> rfl⟩ ?_
    show (w.responderFinish s s).stateOf (some s) ≠ .dead
    rw [responderFinish_state hs]
    simp
  · rename_i hsends
    constructor
    · rintro hall ⟨_, _, _, _, _, _, _, _, hdup, c, hc, hadopt⟩
      exact responderFinish_killed hs s hdup hc hadopt hone hall
    · intro hno
      refine hkill _ (responderFinish_lists hs s ?_) s false
      by_cases hdup : w.rekeyDuplicate = true
      · exact .inl hdup
      · refine .inr fun c hc => ?_
        by_contra hadopt
        refine hno ⟨sa, hs, hstate, rfl, by simpa using hke, by simpa using haddke,
          by simpa using hkeys, by simpa using hsends, by simpa using hdup, c, hc, by simpa using hadopt⟩

theorem responderDhDone_children (s : Serial) (rc : Bool) (env : TailEnv) (hone : w.OneHolder)
    (hlive : w.state ≠ .dead) :
    w.AllOrNothing (responderDhDone w s rc env).1 (responderDhDone w s rc env).2
      ↔ ¬ w.AdoptsUnsent s rc env := by
  unfold responderDhDone
  cases hs : w.sas s with
  | none =>
    refine iff_of_true ((RekeySa.SameLists.refl w).allOrNothing hone hlive false) ?_
    rintro ⟨sa, hsa, _⟩
    rw [hs] at hsa
    exact nomatch hsa
  | some sa =>
    dsimp only
    split
    · rename_i hdead
      refine iff_of_true ((RekeySa.SameLists.refl w).allOrNothing hone hlive false) ?_
      rintro ⟨sa', hsa', hstate, _⟩
      rw [hs] at hsa'
      cases hsa'
      exact hdead.elim hlive hstate
    · rename_i hdead
      split
      · rename_i hrc
        refine iff_of_true ((w.kill_lists s s).allOrNothing hone hlive false) ?_
        rintro ⟨_, _, _, hrc', _⟩
        simp [hrc'] at hrc
      · rename_i hrc
        have hrc' : rc = true := by simpa using hrc
        rw [hrc']
        exact responderTail_children hs (fun h => hdead (.inr h)) hone hlive env

theorem addkeComplete_children {s : Serial} {sa : NewSa} (hpark : w.addkeComplete = some s)
    (hs : w.sas s = some sa) (hone : w.OneHolder) (hlive : w.state ≠ .dead) (x : Serial)
    (env : TailEnv) :
    w.AllOrNothing (addkeComplete w x env).1 (addkeComplete w x env).2 := by
  unfold addkeComplete
  rw [hpark]
  dsimp only
  generalize hu : ({ w with
    addkeComplete := none, timer := none, addkePending := false
    fates := (w.addkeInit.toList.map InitRecvCtx.newSa).map (x, ·) ++ w.fates } : RekeySa) = u
  have hwu : w.SameLists u := by
    rw [← hu]
    exact ⟨rfl, fun o => by cases o <;> rfl⟩
  have hsu : u.sas s = some sa := by
    rw [← hu]
    exact hs
  have hkill : w.SameLists ((u.kill x s).setSlot x none) :=
    (hwu.trans (u.kill_lists x s)).trans (RekeySa.setSlot_lists _ x none)
  split
  · exact (hkill.trans ⟨rfl, fun o => by cases o <;> rfl⟩).allOrNothing hone hlive false
  split
  · exact (hkill.trans ⟨rfl, fun o => by cases o <;> rfl⟩).allOrNothing hone hlive true
  · have honeu : u.OneHolder := by
      intro o o' c hc c' hc' hid
      rw [hwu.2] at hc hc'
      exact hone o o' c hc c' hc' hid
    have hlists : (u.responderFinish x s).SameLists ((u.responderFinish x s).setSlot x none) :=
      RekeySa.setSlot_lists _ x none
    have hstate : ((u.responderFinish x s).setSlot x none).stateOf (some s) ≠ .dead := by
      show (u.responderFinish x s).stateOf (some s) ≠ .dead
      rw [responderFinish_state hsu]
      simp
    have hall := responderFinish_allOrNothing hsu honeu (by rw [hwu.1]; exact hlive) x hlists hstate
    intro c hc
    exact hall c (by rw [← hu]; exact hc)

/-- whatever fails, a rekey we answer leaves every child with one live SA, the old one if the
response was not sent: except where the children are moved before the response is built.  The SA of
a parked exchange is still there -/
theorem responder_children (w : RekeySa) (hone : w.OneHolder) (hlive : w.state ≠ .dead)
    (hpark : ∀ s, w.addkeComplete = some s → (w.sas s).isSome) :
    (∀ s rc env, w.AllOrNothing (responderDhDone w s rc env).1 (responderDhDone w s rc env).2
        ↔ ¬ w.AdoptsUnsent s rc env)
      ∧ ∀ x env, w.AllOrNothing (addkeComplete w x env).1 (addkeComplete w x env).2 := by
  refine ⟨fun s rc env => responderDhDone_children s rc env hone hlive, fun x env => ?_⟩
  cases hc : w.addkeComplete with
  | none =>
    unfold addkeComplete
    rw [hc]
    exact (RekeySa.SameLists.refl w).allOrNothing hone hlive false
  | some s =>
    obtain ⟨sa, hs⟩ := Option.isSome_iff_exists.mp (hpark s hc)
    exact addkeComplete_children hc hs hone hlive x env

end

def matureChild (id : Nat) : ChildSa :=
  { childId := id, isInitiator := false, state := .mature, messageId := 0, localEp := none,
    remoteEp := none, addkePending := false, addkeFollowupMsgid := 0 }

/-- two children, and a rekey request of the peer whose key exchange is done -/
def RekeySa.answering : RekeySa :=
  rekeyStep (RekeySa.start [matureChild 1, matureChild 2]) (.request (.submitted [9] [1] [2] []))

theorem RekeySa.answering_oneHolder : RekeySa.answering.OneHolder := by
  have hlists : ∀ o, ∀ c ∈ RekeySa.answering.childrenOf o,
      o = none ∧ c ∈ [matureChild 1, matureChild 2] := by
    intro o c hc
    cases o with
    | none => exact ⟨rfl, hc⟩
    | some s =>
      by_cases hs : s = ⟨false, 0⟩
      · have hnil : RekeySa.answering.childrenOf (some ⟨false, 0⟩) = [] := by decide +kernel
        rw [hs, hnil] at hc
        exact absurd hc List.not_mem_nil
      · have hnone : RekeySa.answering.sas s = none := if_neg hs
        simp [RekeySa.childrenOf, hnone] at hc
  have hids : ∀ c ∈ [matureChild 1, matureChild 2], ∀ c' ∈ [matureChild 1, matureChild 2],
      c.childId = c'.childId → c = c' := by decide +kernel
  intro o o' c hc c' hc' hid
  obtain ⟨ho, hc⟩ := hlists o c hc
  obtain ⟨ho', hc'⟩ := hlists o' c' hc'
  exact ⟨ho.trans ho'.symm, hids c hc c' hc' hid⟩

def TailEnv.fine : TailEnv :=
  { ke := true, link := some [5], proposal := true, construct := true, transmit := true,
    skeyseed := true, keys := true }

/-- all goes well: both children move -/
theorem responder_children_answering :
    RekeySa.answering.AllOrNothing (responderDhDone RekeySa.answering ⟨false, 0⟩ true .fine).1
      (responderDhDone RekeySa.answering ⟨false, 0⟩ true .fine).2 := by
  refine ((responder_children RekeySa.answering RekeySa.answering_oneHolder (by decide +kernel)
    (fun s hs => nomatch hs)).1 ⟨false, 0⟩ true .fine).mpr ?_
  rintro ⟨_, _, _, _, _, _, _, hsends, _⟩
  exact nomatch hsends

/-- the response cannot be sent: both children are with an SA that is dead -/
theorem responder_children_lost :
    ¬ RekeySa.answering.AllOrNothing
        (responderDhDone RekeySa.answering ⟨false, 0⟩ true { TailEnv.fine with transmit := false }).1
        (responderDhDone RekeySa.answering ⟨false, 0⟩ true
          { TailEnv.fine with transmit := false }).2
      ∧ (responderDhDone RekeySa.answering ⟨false, 0⟩ true
          { TailEnv.fine with transmit := false }).1.children = []
      ∧ (responderDhDone RekeySa.answering ⟨false, 0⟩ true
          { TailEnv.fine with transmit := false }).1.stateOf (some ⟨false, 0⟩) = .dead := by
  refine ⟨fun hall => ?_, by decide +kernel, by decide +kernel⟩
  obtain ⟨o, hmem, -, -, hold⟩ := hall (matureChild 1) (by decide +kernel)
  rw [hold (by decide +kernel)] at hmem
  exact absurd hmem (by decide +kernel)

end Ikev2
