import Racoon2.Lib.Run
import Racoon2.Iked.Eap
import Racoon2.Iked.RadiusMsk
import Racoon2.Iked.AuthResponder

/-!
# The EAP relay of a responder

The responder passes EAP packets between its peer and a RADIUS server: a Response of the peer opens
a round (`responder_ike_sa_auth_eap_cont`), a worker exchanges the datagrams
(`ikev2_radius_exchange`), and the answer is driven into the relay
(`responder_ike_sa_auth_eap_resume`).  What goes over either wire is kept in a log that no handler
reads.

* `consume`, `exchange`     the relay, and the worker;
* `EapSa.step`              a request of the peer, the end of a round, the end of the SA;
* `Authenticator`           what a pass-through authenticator may do next, after a log;
* `relay_step`              one event (the step);
* `eap_relay_lawful`        every run.
-/

set_option linter.unusedVariables false

namespace Eap
open Bytes Radius

/-! ## the relay -/

/-- `struct ikev2_eap_relay` -/
structure Relay where
  started : Bool
  finished : Bool
  state : Option Bytes
  eapPending : Option Bytes

/-- `enum ikev2_eap_relay_result`, with `out_eap` and `out_msk` -/
inductive RelayResult where
  | continue (eap : Bytes)
  | success (eap : Option Bytes) (msk : Bytes)
  | failure
  | error

/-- `resp->req_auth` has 16 octets -/
def reqAuthOf (resp : Response) : Octets 16 :=
  ⟨(resp.reqAuth ++ List.replicate 16 0).take 16, by
    rw [List.length_take, List.length_append, List.length_replicate]
    exact Nat.min_eq_left (Nat.le_add_left 16 _)⟩

/-- `ikev2_radius_find_attr` -/
def findAttr (resp : Response) (type : UInt8) : Option Bytes :=
  (resp.attrs.find? fun a => a.type == type).map Tlv.value

/-- `ikev2_eap_relay_start` -/
def relayStart (relay : Relay) (identifier : UInt8) : Option (Relay × Bytes) :=
  if relay.started || relay.finished then none
  else (buildIdentityRequest identifier).map fun req =>
    ({ relay with started := true, eapPending := some req }, req)

/-- `ikev2_eap_relay_consume` -/
def consume (md5 : Bytes → Octets 16) (relay : Relay) (resp : Response) (secret : Bytes) :
    Relay × RelayResult :=
  if !relay.started || relay.finished || secret.isEmpty then (relay, .error)
  else if resp.code = codeAccessChallenge then
    match eapMessage resp.attrs with
    | none => (relay, .error)
    | some eap =>
      ({ relay with state := (findAttr resp attrState).or relay.state, eapPending := some eap },
        .continue eap)
  else if resp.code = codeAccessAccept then
    match msk md5 true (reqAuthOf resp) secret resp with
    | none => (relay, .error)
    | some key =>
      ({ relay with finished := true, eapPending := none }, .success (eapMessage resp.attrs) key)
  else if resp.code = codeAccessReject then
    ({ relay with finished := true, eapPending := none }, .failure)
  else (relay, .error)

/-! ## a round -/

/-- `struct ikev2_eap_round`, what the worker reads of it -/
structure Round where
  id : UInt8
  eap : Bytes
  opt : Opt

/-- what the worker meets: for each transmission, whether it left and the datagrams of its time -/
structure ExchangeIo where
  calls : Calls
  connected : Bool
  windows : List (Bool × List Bytes)

section
variable (md5 : Bytes → Octets 16) (hmacmd5 : Bytes → Bytes → Octets 16)

/-- the datagrams of one window: the first that verifies is the answer -/
def firstVerified (mem : Bool) (id : UInt8) (reqAuth : Octets 16) (secret : Bytes) :
    List Bytes → Option Response
  | [] => none
  | rbuf :: rest =>
    match exchangeDatagram md5 hmacmd5 mem id reqAuth rbuf secret with
    | some resp => some resp
    | none => firstVerified mem id reqAuth secret rest

/-- the loop over the attempts; a transmission that fails ends it -/
def attempts (mem : Bool) (id : UInt8) (reqAuth : Octets 16) (secret : Bytes) :
    List (Bool × List Bytes) → Option Response
  | [] => none
  | (sent, datagrams) :: rest =>
    if !sent then none
    else
      match firstVerified md5 hmacmd5 mem id reqAuth secret datagrams with
      | some resp => some resp
      | none => attempts mem id reqAuth secret rest

/-- `ikev2_radius_exchange`, with two attempts; the Request Authenticator is the one that
`ikev2_radius_build_request` drew -/
def exchange (io : ExchangeIo) (r : Round) : Option Response :=
  if r.opt.secret.isEmpty || !io.connected then none
  else
    match buildRequest io.calls r.id r.eap r.opt, io.calls.rand with
    | some req, some reqAuth =>
      attempts md5 hmacmd5 io.calls.mem r.id reqAuth r.opt.secret (io.windows.take 2)
    | _, _ => none

end

/-! ## the SA -/

inductive EapState where
  | eap
  | eapFinal
  | dead
  deriving DecidableEq, Repr

/-- what goes over the wires: a round to the server, its answer, and an EAP packet to the peer in
the response to a request -/
inductive EapAct where
  | submitted (round : Round)
  | response (resp : Option Response)
  | sent (messageId : Nat) (eap : Bytes)

/-- the fields of `struct ikev2_sa` for EAP; `round` is the one in flight (`eap_round_pending`) -/
structure EapSa where
  state : EapState
  relay : Relay
  msk : Option Bytes
  user : Option Bytes
  rid : UInt8
  lastPeerId : UInt8
  method : Nat
  onlyHonored : Bool
  messageId : Nat
  round : Option Round
  log : List EapAct

/-- what `responder_ike_sa_auth_eap_cont` meets -/
structure RequestIo where
  /-- `radius_server` is there, and an IPv4 address -/
  server : Bool
  /-- the octets of `radius_secret_file` -/
  secretFile : Option Bytes
  /-- there is memory for the round, and the worker pool takes it -/
  submitted : Bool
  /-- `ikev2_responder_eap_send` -/
  sent : Bool

/-- at most 255 octets are read, and blanks at the end go -/
def readSecret (file : Bytes) : Bytes :=
  ((file.take 255).reverse.dropWhile fun c => c == 10 || c == 13 || c == 32).reverse

/-- the Identifier of a Response that does not echo the last Request -/
def stale (relay : Relay) (eap : Bytes) : Bool :=
  match relay.eapPending with
  | none => false
  | some pending =>
    decide (2 ≤ eap.length) && decide (2 ≤ pending.length) && (byteAt eap 1 != byteAt pending 1)

/-- the Identifier of a Response, if it has one -/
def identifierOr (old : UInt8) (eap : Bytes) : UInt8 := if 2 ≤ eap.length then byteAt eap 1 else old

/-- the method of a Response; Identity, Notification and Nak are none -/
def methodOr (old : Nat) (eap : Bytes) : Nat :=
  match responseType eap with
  | none => old
  | some type => if 3 < type.toNat then type.toNat else old

namespace EapSa
variable (sa : EapSa)

/-- `ikev2_abort` -/
def abort : EapSa := { sa with state := .dead }

def say (act : EapAct) : EapSa := { sa with log := sa.log ++ [act] }

/-- a transmission that fails leaves nothing on the wire -/
def send (sent : Bool) (messageId : Nat) (eap : Bytes) : EapSa :=
  if sent then say sa (.sent messageId eap) else sa

/-- EAP-Success, and the wait for the last IKE_AUTH -/
def succeed (sent : Bool) (messageId : Nat) (eap : Bytes) : EapSa :=
  if sent then { say sa (.sent messageId eap) with state := .eapFinal } else sa

/-- the options of the round -/
def opt (secret : Bytes) : Opt := ⟨sa.user.getD [], [], [], 0, sa.relay.state.getD [], secret⟩

/-- `ikev2_eap_round_submit` and what is noted of its packet -/
def submit (io : RequestIo) (eap secret : Bytes) : EapSa :=
  let sa := { sa with rid := if sa.rid = 0 then 1 else sa.rid }
  if sa.round.isSome then sa
  else if !io.submitted then sa.abort
  else
    let r : Round := ⟨sa.rid, eap, sa.opt secret⟩
    { say sa (.submitted r) with
      round := some r, lastPeerId := identifierOr sa.lastPeerId eap
      method := methodOr sa.method eap }

/-- the RADIUS configuration of the remote -/
def configured (io : RequestIo) (eap : Bytes) : EapSa :=
  if !io.server then sa.abort
  else
    match io.secretFile with
    | none => sa.abort
    | some file => if (readSecret file).isEmpty then sa.abort else submit sa io eap (readSecret file)

/-- `responder_ike_sa_auth_eap_cont` -/
def eapCont (messageId : Nat) (eap : Bytes) (io : RequestIo) : EapSa :=
  if stale sa.relay eap then sa
  else if sa.msk.any (·.length == 64) then
    match buildSuccess sa.lastPeerId with
    | none => sa
    | some succ => succeed sa io.sent messageId succ
  else
    let sa := { sa with user := sa.user.or (identityString eap) }
    if maxValue < (sa.user.getD []).length then sa.abort else configured sa io eap

/-- `responder_ike_sa_auth_eap_recv`, on the EAP payloads of the message -/
def eapRecv (messageId : Nat) (eaps : List Bytes) (io : RequestIo) : EapSa :=
  let sa := { sa with messageId := messageId }
  match eaps with
  | [eap] => eapCont sa messageId eap io
  | _ => sa.abort

/-- `ikev2_eap_drive_advance` -/
def driveAdvance (md5 : Bytes → Octets 16) (resp : Option Response) (secret : Bytes) :
    EapSa × RelayResult :=
  match resp with
  | none => (sa, .error)
  | some resp =>
    let (relay, result) := consume md5 sa.relay resp secret
    match result with
    | .success eap key => ({ sa with relay := relay, msk := some key }, .success eap key)
    | result => ({ sa with relay := relay }, result)

/-- EAP-Failure, and the end of the SA -/
def fail (sent : Bool) : EapSa :=
  match buildFailure sa.lastPeerId with
  | none => sa.abort
  | some eap => (send sa sent sa.messageId eap).abort

/-- the server's own Success is passed on if it is one for the Response that was proxied -/
def successFor (eap : Option Bytes) : Option Bytes :=
  match eap with
  | some eap =>
    if eap.length = 4 ∧ byteAt eap 0 = codeSuccess ∧ byteAt eap 1 = sa.lastPeerId ∧ byteAt eap 2 = 0
        ∧ byteAt eap 3 = 4 then some eap
    else buildSuccess sa.lastPeerId
  | none => buildSuccess sa.lastPeerId

/-- what `responder_ike_sa_auth_eap_resume` makes of a result -/
def conclude (sent : Bool) : RelayResult → EapSa
  | .continue eap => send sa sent sa.messageId eap
  | .success eap _ =>
    if sa.onlyHonored && ((sa.msk.getD []).isEmpty || !Ikev2.eapSafeMethod sa.method) then fail sa sent
    else
      match successFor sa eap with
      | none => sa
      | some succ => succeed sa sent sa.messageId succ
  | .failure => fail sa sent
  | .error => fail sa sent

/-- `responder_ike_sa_auth_eap_resume` -/
def resume (md5 : Bytes → Octets 16) (resp : Option Response) (secret : Bytes) (sent : Bool) : EapSa :=
  let (sa, result) := driveAdvance sa md5 resp secret
  conclude sa sent result

/-- `eap_round_done` -/
def roundDone (md5 : Bytes → Octets 16) (hmacmd5 : Bytes → Bytes → Octets 16) (io : ExchangeIo)
    (sent : Bool) : EapSa :=
  match sa.round with
  | none => sa
  | some r =>
    if sa.state = .dead then { sa with round := none }
    else
      let resp := exchange md5 hmacmd5 io r
      -- the Identifier goes on when the exchange gave a response
      let sa := { say sa (.response resp) with
        round := none, rid := if resp.isSome then r.id + 1 else r.id }
      resume sa md5 resp r.opt.secret sent

end EapSa

inductive EapEvent where
  | request (messageId : Nat) (eaps : List Bytes) (io : RequestIo)
  | done (io : ExchangeIo) (sent : Bool)
  /-- any other end of the SA -/
  | teardown

def EapSa.step (md5 : Bytes → Octets 16) (hmacmd5 : Bytes → Bytes → Octets 16) (sa : EapSa) :
    EapEvent → EapSa
  | .request messageId eaps io => if sa.state = .eap then sa.eapRecv messageId eaps io else sa
  | .done io sent => sa.roundDone md5 hmacmd5 io sent
  | .teardown => sa.abort

/-- the Request that opens the exchange -/
def identityRequest : Bytes := [codeRequest, 1, 0, 5, typeIdentity]

/-- the relay once `ikev2_eap_relay_start` has opened the exchange -/
def Relay.opened : Relay :=
  match relayStart ⟨false, false, none, none⟩ 1 with
  | some (relay, _) => relay
  | none => ⟨false, false, none, none⟩

theorem Relay.opened_eq : Relay.opened = ⟨true, false, none, some identityRequest⟩ := by
  unfold Relay.opened relayStart
  rw [buildIdentityRequest_eq]
  rfl

/-- the SA when EAP has started -/
def EapSa.start (onlyHonored : Bool) : EapSa where
  state := .eap
  relay := .opened
  msk := none
  user := none
  rid := 0
  lastPeerId := 0
  method := 0
  onlyHonored := onlyHonored
  messageId := 1
  round := none
  log := []

/-! ## a pass-through authenticator -/

/-- what a log amounts to: the round that waits for its answer, the Request the peer has to answer,
the State to echo, the User-Name, the Identifiers of the last Response and of the last Access-Request,
the method, the packet of the server that is to be passed on, the key, and whether the peer was
refused -/
structure Authenticator where
  waiting : Option Round
  request : Bytes
  state : Bytes
  user : Bytes
  peerId : UInt8
  radiusId : UInt8
  method : Nat
  offer : Option Bytes
  key : Option Bytes
  refused : Bool

namespace Authenticator

def start : Authenticator := ⟨none, identityRequest, [], [], 0, 0, 0, none, none, false⟩

/-- the answer to the round `r` -/
def answer (md5 : Bytes → Octets 16) (onlyHonored : Bool) (a : Authenticator) (r : Round) :
    Option Response → Authenticator
  | none => { a with waiting := none, refused := true }
  | some resp =>
    if resp.code = codeAccessChallenge then
      match eapMessage resp.attrs with
      | none => { a with waiting := none, refused := true }
      | some eap =>
        { a with
          waiting := none, request := eap, offer := some eap
          state := (findAttr resp attrState).getD a.state }
    else if resp.code = codeAccessAccept then
      match msk md5 true (reqAuthOf resp) r.opt.secret resp with
      | none => { a with waiting := none, refused := true }
      | some key =>
        { a with
          waiting := none, key := some key
          refused := onlyHonored && !Ikev2.eapSafeMethod a.method }
    else { a with waiting := none, refused := true }

def after (md5 : Bytes → Octets 16) (onlyHonored : Bool) (a : Authenticator) : EapAct → Authenticator
  | .submitted r =>
    { a with
      waiting := some r, offer := none, user := r.opt.userName, radiusId := r.id
      peerId := identifierOr a.peerId r.eap, method := methodOr a.method r.eap }
  | .response resp =>
    match a.waiting with
    | none => a
    | some r => answer md5 onlyHonored a r resp
  | .sent _ _ => { a with offer := none }

/-- the Identifier of a Response is that of the Request, where both have one -/
def Echoes (request eap : Bytes) : Prop :=
  2 ≤ request.length → 2 ≤ eap.length → byteAt eap 1 = byteAt request 1

/-- rounds come one after the other, none after a key or a refusal, and each one answers the last
Request, echoes the State and the User-Name and has an Identifier of its own; an answer is authentic
for the round that waits for it; and the peer gets the packets of the server, a Success with the key
and a Failure with a refusal -/
def Allowed (md5 : Bytes → Octets 16) (hmacmd5 : Bytes → Bytes → Octets 16) (a : Authenticator) :
    EapAct → Prop
  | .submitted r =>
    a.waiting = none ∧ a.key = none ∧ a.refused = false ∧ Echoes a.request r.eap
      ∧ r.opt.state = a.state ∧ (a.user = [] ∨ r.opt.userName = a.user) ∧ r.id ≠ 0
      ∧ r.id ≠ a.radiusId ∧ r.opt.secret ≠ []
  | .response none => a.waiting.isSome = true
  | .response (some resp) => ∃ r reqAuth raw, a.waiting = some r
      ∧ exchangeDatagram md5 hmacmd5 true r.id reqAuth raw r.opt.secret = some resp
  | .sent _ eap =>
    a.waiting = none ∧
      if a.refused then buildFailure a.peerId = some eap
      else if a.key.isSome then buildSuccess a.peerId = some eap
      else a.offer = some eap

/-- the authenticator after a log -/
def of (md5 : Bytes → Octets 16) (onlyHonored : Bool) (log : List EapAct) : Authenticator :=
  log.foldl (after md5 onlyHonored) start

/-- every act of the log was allowed by the acts before it -/
def Lawful (md5 : Bytes → Octets 16) (hmacmd5 : Bytes → Bytes → Octets 16) (onlyHonored : Bool)
    (log : List EapAct) : Prop :=
  Run.Meets (after md5 onlyHonored) (Allowed md5 hmacmd5) start log

end Authenticator

/-! ## the SA and its log -/

section
variable {md5 : Bytes → Octets 16} {hmacmd5 : Bytes → Bytes → Octets 16} {b : Bool} {sa : EapSa}

open Authenticator

theorem of_concat (log : List EapAct) (act : EapAct) :
    of md5 b (log ++ [act]) = after md5 b (of md5 b log) act := by
  unfold of
  rw [List.foldl_append]
  rfl

theorem lawful_concat {log : List EapAct} {act : EapAct} (h : Lawful md5 hmacmd5 b log)
    (hact : Allowed md5 hmacmd5 (of md5 b log) act) : Lawful md5 hmacmd5 b (log ++ [act]) :=
  (Run.meets_concat act log start).mpr ⟨h, hact⟩

/-- the fields of an SA that is not dead, after its log -/
structure Live (sa : EapSa) (a : Authenticator) : Prop where
  started : sa.relay.started = true
  finished : sa.relay.finished = sa.msk.isSome
  waiting : a.waiting = sa.round
  refused : a.refused = false
  state : a.state = sa.relay.state.getD []
  pending : sa.msk = none → sa.relay.eapPending = some a.request
  peerId : a.peerId = sa.lastPeerId
  method : a.method = sa.method
  user : a.user = [] ∨ sa.user = some a.user
  fresh : sa.round = none → (if sa.rid = 0 then 1 else sa.rid) ≠ a.radiusId
  round : ∀ r, sa.round = some r → r.opt.secret ≠ [] ∧ r.id ≠ 0 ∧ r.id = a.radiusId ∧ sa.msk = none
  final : sa.state = .eapFinal → sa.msk.isSome = true

structure RelayInv (md5 : Bytes → Octets 16) (hmacmd5 : Bytes → Bytes → Octets 16) (b : Bool)
    (sa : EapSa) : Prop where
  honored : sa.onlyHonored = b
  lawful : Lawful md5 hmacmd5 b sa.log
  key : (of md5 b sa.log).key = sa.msk
  sized : ∀ k, sa.msk = some k → k.length = 64
  live : sa.state ≠ .dead → Live sa (of md5 b sa.log)

theorem relayInv_start (md5 : Bytes → Octets 16) (hmacmd5 : Bytes → Bytes → Octets 16) (b : Bool) :
    RelayInv md5 hmacmd5 b (.start b) where
  honored := rfl
  lawful := trivial
  key := rfl
  sized := fun k hk => by cases hk
  live := fun _ =>
    { started := congrArg Relay.started Relay.opened_eq
      finished := congrArg Relay.finished Relay.opened_eq
      waiting := rfl
      refused := rfl
      state := (congrArg (fun relay => relay.state.getD []) Relay.opened_eq).symm
      pending := fun _ => congrArg Relay.eapPending Relay.opened_eq
      peerId := rfl
      method := rfl
      user := .inl rfl
      fresh := fun _ => by
        show (if (0 : UInt8) = 0 then (1 : UInt8) else 0) ≠ 0
        decide
      round := fun r hr => by cases hr
      final := fun h => by cases h }

theorem relayInv_abort (h : RelayInv md5 hmacmd5 b sa) : RelayInv md5 hmacmd5 b sa.abort where
  honored := h.honored
  lawful := h.lawful
  key := h.key
  sized := h.sized
  live := fun hstate => absurd rfl hstate

/-! ## what is sent -/

theorem successFor_eq (sa : EapSa) (eap : Option Bytes) :
    sa.successFor eap = buildSuccess sa.lastPeerId := by
  unfold EapSa.successFor
  split
  · next eap =>
    split
    · next h =>
      obtain ⟨hlen, h0, h1, h2, h3⟩ := h
      match eap, hlen with
      | [a, b, c, d], _ =>
        rw [buildSuccess_eq, ← show a = codeSuccess from h0, ← show b = sa.lastPeerId from h1,
          show c = 0 from h2, show d = 4 from h3]
    · rfl
  · rfl

/-- a refusal that is logged, with EAP-Failure or without -/
theorem relayInv_fail (hhonored : sa.onlyHonored = b) (hlawful : Lawful md5 hmacmd5 b sa.log)
    (hkey : (of md5 b sa.log).key = sa.msk) (hsized : ∀ k, sa.msk = some k → k.length = 64)
    (hwaiting : (of md5 b sa.log).waiting = none) (hrefused : (of md5 b sa.log).refused = true)
    (hpeer : (of md5 b sa.log).peerId = sa.lastPeerId) (sent : Bool) :
    RelayInv md5 hmacmd5 b (sa.fail sent) := by
  unfold EapSa.fail
  rw [buildFailure_eq]
  dsimp only
  unfold EapSa.send
  cases sent with
  | false => exact ⟨hhonored, hlawful, hkey, hsized, fun hstate => absurd rfl hstate⟩
  | true =>
    rw [if_pos rfl]
    refine ⟨hhonored, lawful_concat hlawful ⟨hwaiting, ?_⟩, ?_, hsized, fun hstate => absurd rfl hstate⟩
    · rw [if_pos hrefused, hpeer, buildFailure_eq]
    · show (of md5 b (sa.log ++ [_])).key = sa.msk
      rw [of_concat]
      exact hkey

/-- a packet of the server goes to the peer -/
theorem relayInv_send (h : RelayInv md5 hmacmd5 b sa) (hstate : sa.state ≠ .dead)
    (hround : sa.round = none) (hmsk : sa.msk = none) {eap : Bytes}
    (hoffer : (of md5 b sa.log).offer = some eap) (sent : Bool) (messageId : Nat) :
    RelayInv md5 hmacmd5 b (sa.send sent messageId eap) := by
  unfold EapSa.send
  cases sent with
  | false => exact h
  | true =>
    have hlive := h.live hstate
    rw [if_pos rfl]
    refine ⟨h.honored, lawful_concat h.lawful ⟨hlive.waiting.trans hround, ?_⟩, ?_, h.sized, fun _ => ?_⟩
    · rw [hlive.refused, h.key, hmsk]
      exact hoffer
    · show (of md5 b (sa.log ++ [_])).key = sa.msk
      rw [of_concat]
      exact h.key
    · show Live _ (of md5 b (sa.log ++ [_]))
      rw [of_concat]
      exact { hlive with }

/-- EAP-Success goes to the peer -/
theorem relayInv_succeed (h : RelayInv md5 hmacmd5 b sa) (hstate : sa.state ≠ .dead)
    (hmsk : sa.msk.isSome = true) {eap : Bytes} (hsucc : buildSuccess sa.lastPeerId = some eap)
    (sent : Bool) (messageId : Nat) : RelayInv md5 hmacmd5 b (sa.succeed sent messageId eap) := by
  unfold EapSa.succeed
  cases sent with
  | false => exact h
  | true =>
    have hlive := h.live hstate
    have hround : sa.round = none := by
      cases hr : sa.round with
      | none => rfl
      | some r =>
        rw [(hlive.round r hr).2.2.2] at hmsk
        cases hmsk
    rw [if_pos rfl]
    refine ⟨h.honored, lawful_concat h.lawful ⟨hlive.waiting.trans hround, ?_⟩, ?_, h.sized, fun _ => ?_⟩
    · rw [hlive.refused, h.key, hmsk, hlive.peerId]
      exact hsucc
    · show (of md5 b (sa.log ++ [_])).key = sa.msk
      rw [of_concat]
      exact h.key
    · show Live _ (of md5 b (sa.log ++ [_]))
      rw [of_concat]
      exact { hlive with final := fun _ => hmsk }

/-! ## a request of the peer -/

theorem not_stale {eap pending : Bytes} (h : stale sa.relay eap = false)
    (hpending : sa.relay.eapPending = some pending) : Echoes pending eap := by
  intro hreq heap
  unfold stale at h
  rw [hpending] at h
  dsimp only at h
  rw [decide_eq_true heap, decide_eq_true hreq, Bool.true_and, Bool.true_and] at h
  exact of_not_not fun hne => absurd (bne_iff_ne.mpr hne) (Bool.eq_false_iff.mp h)

theorem relayInv_submit (h : RelayInv md5 hmacmd5 b sa) (hstate : sa.state = .eap) {eap : Bytes}
    (hstale : stale sa.relay eap = false) (hmsk : sa.msk = none) {secret : Bytes} (hsecret : secret ≠ [])
    (io : RequestIo) : RelayInv md5 hmacmd5 b (sa.submit io eap secret) := by
  have hlive := h.live (by rw [hstate]; decide)
  have hrid : (if sa.rid = 0 then 1 else sa.rid) ≠ 0 := by
    split
    · decide
    · assumption
  unfold EapSa.submit
  dsimp only
  split
  · next hsome =>
    obtain ⟨r, hr⟩ := Option.isSome_iff_exists.mp hsome
    refine ⟨h.honored, h.lawful, h.key, h.sized, fun _ => { hlive with fresh := fun hnone => ?_ }⟩
    rw [hr] at hnone
    cases hnone
  next hnone =>
  have hround : sa.round = none := Option.not_isSome_iff_eq_none.mp hnone
  split
  · exact ⟨h.honored, h.lawful, h.key, h.sized, fun hs => absurd rfl hs⟩
  obtain ⟨r, hr⟩ : ∃ r : Round, r = ⟨if sa.rid = 0 then 1 else sa.rid, eap, sa.opt secret⟩ := ⟨_, rfl⟩
  have hact : Allowed md5 hmacmd5 (of md5 b sa.log) (.submitted r) := by
    subst hr
    refine ⟨hlive.waiting.trans hround, h.key.trans hmsk, hlive.refused,
      not_stale hstale (hlive.pending hmsk), hlive.state.symm, ?_, hrid, hlive.fresh hround, hsecret⟩
    rcases hlive.user with huser | huser
    · exact .inl huser
    · refine .inr ?_
      show sa.user.getD [] = _
      rw [huser]
      rfl
  show RelayInv md5 hmacmd5 b { sa with
    rid := if sa.rid = 0 then 1 else sa.rid
    log := sa.log ++ [EapAct.submitted ⟨if sa.rid = 0 then 1 else sa.rid, eap, sa.opt secret⟩]
    round := some ⟨if sa.rid = 0 then 1 else sa.rid, eap, sa.opt secret⟩
    lastPeerId := identifierOr sa.lastPeerId eap
    method := methodOr sa.method eap }
  rw [← hr]
  refine ⟨h.honored, lawful_concat h.lawful hact, ?_, h.sized, fun _ => ?_⟩
  · show (of md5 b (sa.log ++ [_])).key = sa.msk
    rw [of_concat]
    exact h.key
  · show Live _ (of md5 b (sa.log ++ [_]))
    rw [of_concat]
    subst hr
    exact
      { started := hlive.started
        finished := hlive.finished
        waiting := rfl
        refused := hlive.refused
        state := hlive.state
        pending := hlive.pending
        peerId := by
          show identifierOr (of md5 b sa.log).peerId eap = identifierOr sa.lastPeerId eap
          rw [hlive.peerId]
        method := by
          show methodOr (of md5 b sa.log).method eap = methodOr sa.method eap
          rw [hlive.method]
        user := by
          show sa.user.getD [] = [] ∨ sa.user = some (sa.user.getD [])
          cases sa.user with
          | none => exact .inl rfl
          | some user => exact .inr rfl
        fresh := fun hnone => by cases hnone
        round := fun r hr => by
          obtain rfl := Option.some.inj hr
          exact ⟨hsecret, hrid, rfl, hmsk⟩
        final := fun hs => by
          rw [show sa.state = .eap from hstate] at hs
          cases hs }

theorem relayInv_configured (h : RelayInv md5 hmacmd5 b sa) (hstate : sa.state = .eap) {eap : Bytes}
    (hstale : stale sa.relay eap = false) (hmsk : sa.msk = none) (io : RequestIo) :
    RelayInv md5 hmacmd5 b (sa.configured io eap) := by
  unfold EapSa.configured
  split
  · exact relayInv_abort h
  split
  · exact relayInv_abort h
  · next file _ =>
    split
    · exact relayInv_abort h
    · next hempty =>
      refine relayInv_submit h hstate hstale hmsk ?_ io
      intro hnil
      rw [hnil] at hempty
      exact hempty rfl

theorem relayInv_eapCont (h : RelayInv md5 hmacmd5 b sa) (hstate : sa.state = .eap) (messageId : Nat)
    (eap : Bytes) (io : RequestIo) : RelayInv md5 hmacmd5 b (sa.eapCont messageId eap io) := by
  have hlive := h.live (by rw [hstate]; decide)
  unfold EapSa.eapCont
  split
  · exact h
  next hstale =>
  have hstale : stale sa.relay eap = false := Bool.eq_false_iff.mpr hstale
  split
  · next hany =>
    have hsome : sa.msk.isSome = true := by
      cases hm : sa.msk with
      | none =>
        rw [hm] at hany
        cases hany
      | some k => rfl
    rw [buildSuccess_eq]
    exact relayInv_succeed h (by rw [hstate]; decide) hsome (buildSuccess_eq _) io.sent messageId
  next hany =>
  have hmsk : sa.msk = none := by
    cases hm : sa.msk with
    | none => rfl
    | some k =>
      refine absurd ?_ hany
      rw [hm]
      exact beq_iff_eq.mpr (h.sized k hm)
  dsimp only
  have huser : RelayInv md5 hmacmd5 b { sa with user := sa.user.or (identityString eap) } := by
    refine ⟨h.honored, h.lawful, h.key, h.sized, fun _ => { hlive with user := ?_ }⟩
    rcases hlive.user with hnil | hsome
    · exact .inl hnil
    · refine .inr ?_
      show sa.user.or _ = _
      rw [hsome]
      rfl
  split
  · exact relayInv_abort huser
  · exact relayInv_configured huser hstate hstale hmsk io

theorem relayInv_eapRecv (h : RelayInv md5 hmacmd5 b sa) (hstate : sa.state = .eap) (messageId : Nat)
    (eaps : List Bytes) (io : RequestIo) : RelayInv md5 hmacmd5 b (sa.eapRecv messageId eaps io) := by
  have hid : RelayInv md5 hmacmd5 b { sa with messageId := messageId } :=
    ⟨h.honored, h.lawful, h.key, h.sized, fun hs => { h.live hs with }⟩
  unfold EapSa.eapRecv
  dsimp only
  split
  · exact relayInv_eapCont hid hstate messageId _ io
  · exact relayInv_abort hid

/-! ## the end of a round -/

theorem exchangeDatagram_mem {mem : Bool} {id : UInt8} {reqAuth : Octets 16} {raw secret : Bytes}
    {resp : Response} (h : exchangeDatagram md5 hmacmd5 mem id reqAuth raw secret = some resp) :
    exchangeDatagram md5 hmacmd5 true id reqAuth raw secret = some resp := by
  have hmem : mem = true := by
    unfold exchangeDatagram at h
    split at h
    · exact (verifyResponse_cases.mp h).1
    · cases h
  rw [← hmem]
  exact h

theorem firstVerified_some {mem : Bool} {id : UInt8} {reqAuth : Octets 16} {secret : Bytes}
    {resp : Response} (datagrams : List Bytes)
    (h : firstVerified md5 hmacmd5 mem id reqAuth secret datagrams = some resp) :
    ∃ raw, exchangeDatagram md5 hmacmd5 true id reqAuth raw secret = some resp := by
  induction datagrams with
  | nil => cases h
  | cons rbuf rest ih =>
    unfold firstVerified at h
    split at h
    · next hresp =>
      obtain rfl := Option.some.inj h
      exact ⟨rbuf, exchangeDatagram_mem hresp⟩
    · exact ih h

theorem attempts_some {mem : Bool} {id : UInt8} {reqAuth : Octets 16} {secret : Bytes}
    {resp : Response} (windows : List (Bool × List Bytes))
    (h : attempts md5 hmacmd5 mem id reqAuth secret windows = some resp) :
    ∃ raw, exchangeDatagram md5 hmacmd5 true id reqAuth raw secret = some resp := by
  induction windows with
  | nil => cases h
  | cons window rest ih =>
    obtain ⟨sent, datagrams⟩ := window
    unfold attempts at h
    split at h
    · cases h
    split at h
    · next hresp =>
      obtain rfl := Option.some.inj h
      exact firstVerified_some datagrams hresp
    · exact ih h

/-- an answer of the worker is authentic for its round -/
theorem exchange_some {io : ExchangeIo} {r : Round} {resp : Response}
    (h : exchange md5 hmacmd5 io r = some resp) :
    ∃ reqAuth raw, exchangeDatagram md5 hmacmd5 true r.id reqAuth raw r.opt.secret = some resp := by
  unfold exchange at h
  split at h
  · cases h
  split at h
  · next reqAuth _ _ => exact ⟨reqAuth, attempts_some _ h⟩
  · cases h

theorem response_allowed {io : ExchangeIo} {r : Round} {a : Authenticator} (ha : a.waiting = some r) :
    Allowed md5 hmacmd5 a (.response (exchange md5 hmacmd5 io r)) := by
  cases h : exchange md5 hmacmd5 io r with
  | none =>
    show a.waiting.isSome = true
    rw [ha]
    rfl
  | some resp =>
    obtain ⟨reqAuth, raw, hraw⟩ := exchange_some h
    exact ⟨r, reqAuth, raw, ha, hraw⟩

/-- an answer ends the wait, and leaves what the peer said -/
theorem answer_keeps (md5 : Bytes → Octets 16) (b : Bool) (a : Authenticator) (r : Round)
    (resp : Option Response) :
    (answer md5 b a r resp).waiting = none ∧ (answer md5 b a r resp).peerId = a.peerId
      ∧ (answer md5 b a r resp).method = a.method ∧ (answer md5 b a r resp).user = a.user
      ∧ (answer md5 b a r resp).radiusId = a.radiusId := by
  unfold answer
  split
  · exact ⟨rfl, rfl, rfl, rfl, rfl⟩
  split
  · split <;> exact ⟨rfl, rfl, rfl, rfl, rfl⟩
  split
  · split <;> exact ⟨rfl, rfl, rfl, rfl, rfl⟩
  · exact ⟨rfl, rfl, rfl, rfl, rfl⟩

theorem msk_length {reqAuth : Octets 16} {secret : Bytes} {resp : Response} {key : Bytes}
    (h : Radius.msk md5 true reqAuth secret resp = some key) : key.length = 64 := by
  obtain ⟨-, -, recv, send, -, -, hlen, hsame, rfl⟩ := msk_eq_some.mp h
  rw [List.length_append, List.length_append, List.length_replicate, hsame]
  omega

/-- the next Identifier is another one -/
theorem next_rid {id : UInt8} (h : id ≠ 0) : (if id + 1 = 0 then 1 else id + 1) ≠ id := by
  have hpos : id.toNat ≠ 0 := fun hz => h (UInt8.toNat_inj.mp hz)
  have hadd : (id + 1).toNat = (id.toNat + 1) % 256 := UInt8.toNat_add id 1
  have hlt : id.toNat < 256 := id.toNat_lt
  intro heq
  have hnat := congrArg UInt8.toNat heq
  split at hnat
  · next hz =>
    have hzero : (id + 1).toNat = 0 := congrArg UInt8.toNat hz
    have hone : 1 = id.toNat := hnat
    omega
  · rw [hadd] at hnat
    omega

/-- what the relay makes of a response, and what the authenticator makes of it -/
theorem consume_cases (md5 : Bytes → Octets 16) (b : Bool) {relay : Relay}
    (hstarted : relay.started = true)
    (hfinished : relay.finished = false) {r : Round} (hsecret : r.opt.secret ≠ []) (a : Authenticator)
    (resp : Response) :
    (∃ eap, consume md5 relay resp r.opt.secret = ({ relay with
          state := (findAttr resp attrState).or relay.state, eapPending := some eap }, .continue eap)
        ∧ answer md5 b a r (some resp) = { a with
          waiting := none, request := eap, offer := some eap
          state := (findAttr resp attrState).getD a.state })
      ∨ (∃ out key, consume md5 relay resp r.opt.secret
          = ({ relay with finished := true, eapPending := none }, .success out key)
        ∧ key.length = 64
        ∧ answer md5 b a r (some resp) = { a with
          waiting := none, key := some key, refused := b && !Ikev2.eapSafeMethod a.method })
      ∨ (∃ relay' result, consume md5 relay resp r.opt.secret = (relay', result)
        ∧ (result = .failure ∨ result = .error)
        ∧ answer md5 b a r (some resp) = { a with waiting := none, refused := true }) := by
  have hguard : (!relay.started || relay.finished || r.opt.secret.isEmpty) = false := by
    rw [hstarted, hfinished]
    show r.opt.secret.isEmpty = false
    rw [List.isEmpty_eq_false_iff]
    exact hsecret
  unfold consume answer
  rw [hguard, if_neg (by decide)]
  dsimp only
  by_cases hchallenge : resp.code = codeAccessChallenge
  · rw [if_pos hchallenge, if_pos hchallenge]
    cases heap : eapMessage resp.attrs with
    | none => exact .inr (.inr ⟨_, _, rfl, .inr rfl, rfl⟩)
    | some eap => exact .inl ⟨eap, rfl, rfl⟩
  rw [if_neg hchallenge, if_neg hchallenge]
  by_cases haccept : resp.code = codeAccessAccept
  · rw [if_pos haccept, if_pos haccept]
    cases hkey : Radius.msk md5 true (reqAuthOf resp) r.opt.secret resp with
    | none => exact .inr (.inr ⟨_, _, rfl, .inr rfl, rfl⟩)
    | some key => exact .inr (.inl ⟨_, key, rfl, msk_length hkey, rfl⟩)
  rw [if_neg haccept, if_neg haccept]
  by_cases hreject : resp.code = codeAccessReject
  · rw [if_pos hreject]
    exact .inr (.inr ⟨_, _, rfl, .inl rfl, rfl⟩)
  · rw [if_neg hreject]
    exact .inr (.inr ⟨_, _, rfl, .inr rfl, rfl⟩)

/-- the SA when the answer to its round is logged -/
def EapSa.answered (sa : EapSa) (r : Round) (resp : Option Response) : EapSa :=
  { sa.say (.response resp) with round := none, rid := if resp.isSome then r.id + 1 else r.id }

theorem relayInv_resume (h : RelayInv md5 hmacmd5 b sa) (hstate : sa.state ≠ .dead) {r : Round}
    (hr : sa.round = some r) {resp : Option Response}
    (hact : Allowed md5 hmacmd5 (of md5 b sa.log) (.response resp)) (sent : Bool) :
    RelayInv md5 hmacmd5 b ((sa.answered r resp).resume md5 resp r.opt.secret sent) := by
  have hlive := h.live hstate
  obtain ⟨hsecret, hid, hradius, hmsk⟩ := hlive.round r hr
  have hlawful : Lawful md5 hmacmd5 b (sa.log ++ [.response resp]) := lawful_concat h.lawful hact
  have hof : of md5 b (sa.log ++ [.response resp]) = answer md5 b (of md5 b sa.log) r resp := by
    rw [of_concat]
    unfold after
    dsimp only
    rw [hlive.waiting, hr]
  obtain ⟨hwaiting, hpeer, hmethod, huser, hradius'⟩ := answer_keeps md5 b (of md5 b sa.log) r resp
  -- a refusal, however it came
  have hfail : ∀ relay : Relay, (answer md5 b (of md5 b sa.log) r resp) = { of md5 b sa.log with
      waiting := none, refused := true } →
      RelayInv md5 hmacmd5 b (({ sa.answered r resp with relay := relay }).fail sent) := by
    intro relay hanswer
    refine relayInv_fail ?_ ?_ ?_ ?_ ?_ ?_ ?_ sent
    · exact h.honored
    · exact hlawful
    · show (of md5 b (sa.log ++ [_])).key = sa.msk
      rw [hof, hanswer]
      exact h.key
    · exact h.sized
    · show (of md5 b (sa.log ++ [_])).waiting = none
      rw [hof, hwaiting]
    · show (of md5 b (sa.log ++ [_])).refused = true
      rw [hof, hanswer]
    · show (of md5 b (sa.log ++ [_])).peerId = sa.lastPeerId
      rw [hof, hpeer, hlive.peerId]
  cases resp with
  | none => exact hfail sa.relay rfl
  | some resp =>
    have hfinished : sa.relay.finished = false := by
      rw [hlive.finished, hmsk]
      rfl
    obtain ⟨eap, hconsume, hanswer⟩ | ⟨out, key, hconsume, hsize, hanswer⟩
      | ⟨relay, result, hconsume, hresult, hanswer⟩ :=
      consume_cases md5 b hlive.started hfinished hsecret (of md5 b sa.log) resp
    · unfold EapSa.resume EapSa.driveAdvance
      dsimp only
      rw [show (sa.answered r (some resp)).relay = sa.relay from rfl, hconsume]
      dsimp only
      refine relayInv_send ⟨?_, ?_, ?_, ?_, fun _ => ?_⟩ ?_ ?_ ?_ ?_ sent _
      · exact h.honored
      · exact hlawful
      · show (of md5 b (sa.log ++ [_])).key = sa.msk
        rw [hof, hanswer]
        exact h.key
      · exact h.sized
      · show Live _ (of md5 b (sa.log ++ [_]))
        rw [hof, hanswer]
        exact
          { started := hlive.started
            finished := hlive.finished
            waiting := rfl
            refused := hlive.refused
            state := by
              show (findAttr resp attrState).getD (of md5 b sa.log).state
                = ((findAttr resp attrState).or sa.relay.state).getD []
              rw [hlive.state]
              cases findAttr resp attrState <;> rfl
            pending := fun _ => rfl
            peerId := hlive.peerId
            method := hlive.method
            user := hlive.user
            fresh := fun _ => by
              show (if r.id + 1 = 0 then 1 else r.id + 1) ≠ (of md5 b sa.log).radiusId
              rw [← hradius]
              exact next_rid hid
            round := fun r' hr' => by cases hr'
            final := hlive.final }
      · exact hstate
      · rfl
      · exact hmsk
      · show (of md5 b (sa.log ++ [_])).offer = some eap
        rw [hof, hanswer]
    · unfold EapSa.resume EapSa.driveAdvance
      dsimp only
      rw [show (sa.answered r (some resp)).relay = sa.relay from rfl, hconsume]
      dsimp only
      have hempty : (Option.getD (some key) []).isEmpty = false := by
        rw [List.isEmpty_eq_false_iff]
        intro hnil
        rw [show key = [] from hnil] at hsize
        cases hsize
      unfold EapSa.conclude
      dsimp only
      rw [hempty, Bool.false_or, successFor_eq, buildSuccess_eq]
      split
      · next hunsafe =>
        refine relayInv_fail ?_ ?_ ?_ ?_ ?_ ?_ ?_ sent
        · exact h.honored
        · exact hlawful
        · show (of md5 b (sa.log ++ [_])).key = some key
          rw [hof, hanswer]
        · intro k hk
          obtain rfl := Option.some.inj hk
          exact hsize
        · show (of md5 b (sa.log ++ [_])).waiting = none
          rw [hof, hwaiting]
        · show (of md5 b (sa.log ++ [_])).refused = true
          rw [hof, hanswer]
          show (b && !Ikev2.eapSafeMethod (of md5 b sa.log).method) = true
          rw [hlive.method, ← h.honored]
          exact hunsafe
        · show (of md5 b (sa.log ++ [_])).peerId = sa.lastPeerId
          rw [hof, hpeer, hlive.peerId]
      · next hsafe =>
        refine relayInv_succeed ⟨?_, ?_, ?_, ?_, fun _ => ?_⟩ ?_ ?_ ?_ sent _
        · exact h.honored
        · exact hlawful
        · show (of md5 b (sa.log ++ [_])).key = some key
          rw [hof, hanswer]
        · intro k hk
          obtain rfl := Option.some.inj hk
          exact hsize
        · show Live _ (of md5 b (sa.log ++ [_]))
          rw [hof, hanswer]
          exact
            { started := hlive.started
              finished := rfl
              waiting := rfl
              refused := by
                show (b && !Ikev2.eapSafeMethod (of md5 b sa.log).method) = false
                rw [hlive.method, ← h.honored]
                exact Bool.eq_false_iff.mpr hsafe
              state := hlive.state
              pending := fun hnone => by cases hnone
              peerId := hlive.peerId
              method := hlive.method
              user := hlive.user
              fresh := fun _ => by
                show (if r.id + 1 = 0 then 1 else r.id + 1) ≠ (of md5 b sa.log).radiusId
                rw [← hradius]
                exact next_rid hid
              round := fun r' hr' => by cases hr'
              final := fun _ => rfl }
        · exact hstate
        · rfl
        · exact buildSuccess_eq _
    · unfold EapSa.resume EapSa.driveAdvance
      dsimp only
      rw [show (sa.answered r (some resp)).relay = sa.relay from rfl, hconsume]
      rcases hresult with rfl | rfl
      · exact hfail relay hanswer
      · exact hfail relay hanswer

theorem relayInv_roundDone (h : RelayInv md5 hmacmd5 b sa) (io : ExchangeIo) (sent : Bool) :
    RelayInv md5 hmacmd5 b (sa.roundDone md5 hmacmd5 io sent) := by
  unfold EapSa.roundDone
  split
  · exact h
  next r hr =>
  split
  · next hdead => exact ⟨h.honored, h.lawful, h.key, h.sized, fun hs => absurd hdead hs⟩
  · next hstate =>
    have hwaiting : (of md5 b sa.log).waiting = some r := (h.live hstate).waiting.trans hr
    exact relayInv_resume h hstate hr (response_allowed hwaiting) sent

/-- one event -/
theorem relay_step (h : RelayInv md5 hmacmd5 b sa) (e : EapEvent) :
    RelayInv md5 hmacmd5 b (sa.step md5 hmacmd5 e) := by
  cases e with
  | request messageId eaps io =>
    show RelayInv md5 hmacmd5 b (if sa.state = .eap then sa.eapRecv messageId eaps io else sa)
    split
    · next hstate => exact relayInv_eapRecv h hstate messageId eaps io
    · exact h
  | done io sent => exact relayInv_roundDone h io sent
  | teardown => exact relayInv_abort h

end

open Authenticator in
/-- in every run the log is that of a pass-through authenticator, the MSK is the key of its one
Access-Accept, and the SA waits for the last AUTH only with that key and without a refusal -/
theorem eap_relay_lawful (md5 : Bytes → Octets 16) (hmacmd5 : Bytes → Bytes → Octets 16)
    (onlyHonored : Bool) (es : List EapEvent) :
    ∀ sa ∈ Run.states (EapSa.step md5 hmacmd5) (.start onlyHonored) es,
      Lawful md5 hmacmd5 onlyHonored sa.log
        ∧ sa.msk = (of md5 onlyHonored sa.log).key
        ∧ (∀ k, sa.msk = some k → k.length = 64)
        ∧ (sa.state = .eapFinal → sa.msk.isSome = true ∧ (of md5 onlyHonored sa.log).refused = false) := by
  have hinv : ∀ sa ∈ Run.states (EapSa.step md5 hmacmd5) (.start onlyHonored) es,
      RelayInv md5 hmacmd5 onlyHonored sa :=
    Run.states_inv_all (fun _ e hs => relay_step hs e) es (relayInv_start md5 hmacmd5 onlyHonored)
  intro sa hsa
  have h := hinv sa hsa
  refine ⟨h.lawful, h.key.symm, h.sized, fun hfinal => ?_⟩
  have hlive := h.live (by rw [hfinal]; decide)
  exact ⟨hlive.final hfinal, hlive.refused⟩

/-- the peer says who it is, and the server is not reached -/
def unreachedRun : List EapEvent :=
  [.request 2 [[codeResponse, 1, 0, 6, typeIdentity, 97]] ⟨true, some [115], true, true⟩,
    .done ⟨⟨true, none, fun _ => none, none⟩, false, []⟩ true]

open Authenticator in
theorem eap_relay_lawful_unreached :
    (unreachedRun.foldl (EapSa.step lengthDigest fun _ => lengthDigest) (.start false)).log.length = 3 ∧
    Lawful lengthDigest (fun _ => lengthDigest) false
      (unreachedRun.foldl (EapSa.step lengthDigest fun _ => lengthDigest) (.start false)).log := by
  refine ⟨by decide, ?_⟩
  exact (eap_relay_lawful lengthDigest (fun _ => lengthDigest) false unreachedRun _
    (Run.foldl_mem_states unreachedRun _)).1

end Eap
