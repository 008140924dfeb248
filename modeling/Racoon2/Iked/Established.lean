import Racoon2.Iked.Transmit

/-!
# The dispatch table and the handler of an established SA

`ikev2_input_dispatch[]` picks the handler by the state of the SA.  `establishedRecv` is
`ikev2_established_recv` with the two things it does before it looks at the exchange type: it
follows the source address of the message (MOBIKE, RFC 4555, or a new TCP stream, RFC 9329).

The body of a handler that reads a fresh message (negotiation, authentication) is a field of
`Handlers`, free here; what stands before it in the source (the tests of exchange type, flags
and message id, and the search for the request a response belongs to) is written out.
-/

set_option linter.unusedVariables false

namespace Ikev2
open Bytes

/-- a handler: the SA, the message, where it came from, where it arrived -/
abbrev Handler := Env → Sa → Bytes → Endpoint → Endpoint → Sa × List Effect

/-- the bodies of the handlers on a message they accept -/
structure Handlers where
  /-- of the states before an SA is established -/
  ofState : State → Handler
  createchildResponder : Handler
  informationalResponder : Handler
  followupRequest : Handler
  /-- the rest of `ikev2_createchild_initiator_recv`, for the child that waits -/
  createchildResponse : ChildSa → Handler
  /-- `child_sa->callback(REQUEST_CALLBACK_RESPONSE, ...)` -/
  requestCallback : ChildSa → Handler
  followupResponse : Handler

/-- bodies that leave the SA alone -/
def Handlers.inert : Handlers :=
  { ofState := fun _ _ sa _ _ _ => (sa, []), createchildResponder := fun _ sa _ _ _ => (sa, []),
    informationalResponder := fun _ sa _ _ _ => (sa, []),
    followupRequest := fun _ sa _ _ _ => (sa, []),
    createchildResponse := fun _ _ sa _ _ _ => (sa, []),
    requestCallback := fun _ _ sa _ _ _ => (sa, []), followupResponse := fun _ sa _ _ _ => (sa, []) }

/-! ## moving an SA -/

def udpPort : Nat := 500
def udpPortNatt : Nat := 4500

/-- behind a NAT only port 500 floats to 4500 -/
def floatPort (sa : Sa) (e : Endpoint) : Endpoint :=
  if (sa.behindNat || sa.peerBehindNat) && e.port == udpPort then { e with port := udpPortNatt }
  else e

/-- armed copies go to the new addresses -/
def TransmitInfo.retarget (info : TransmitInfo) (local_ remote : Endpoint) : TransmitInfo :=
  if info.armed && info.src.isSome && info.dest.isSome then
    { info with src := some local_, dest := some remote }
  else info

/-- `ikev2_move_sa` with `migrate_kernel == 1` -/
def moveSa (env : Env) (sa : Sa) (remote local_ : Endpoint) : Sa :=
  let r := floatPort sa remote
  let l := floatPort sa local_
  if sameEndpoint sa.remoteEp r && sameEndpoint sa.localEp l then sa
  else if !env.migrated then sa
  else { sa with
    children := sa.children.map fun c => { c with localEp := some l, remoteEp := some r }
    remoteEp := r
    localEp := l
    transmitInfo := sa.transmitInfo.retarget l r
    responseInfo := sa.responseInfo.retarget l r }

def mobikeApply (env : Env) (sa : Sa) (remote local_ : Endpoint) : Sa :=
  if sa.mobikeSupported then moveSa env sa remote local_ else sa

def mobikeEndpointChanged (sa : Sa) (remote : Endpoint) : Bool :=
  sa.state == .established && sa.mobikeSupported
    && !(if sa.tcpEncap then sameAddr remote sa.remoteEp else sameEndpoint remote sa.remoteEp)

/-- the test of `ikev2_tcp_rebind` -/
def tcpRebinds (env : Env) (sa : Sa) (remote : Endpoint) : Bool :=
  !sa.isInitiator && sa.tcpEncap && sameAddr remote sa.remoteEp
    && !sameEndpoint remote sa.remoteEp && env.tcpBound remote sa.localEp

def TransmitInfo.rebindDest (info : TransmitInfo) (remote : Endpoint) : TransmitInfo :=
  if info.armed && info.dest.isSome then { info with dest := some remote } else info

def tcpRebind (env : Env) (sa : Sa) (remote : Endpoint) : Sa :=
  if tcpRebinds env sa remote then
    { sa with
      remoteEp := remote
      transmitInfo := sa.transmitInfo.rebindDest remote
      responseInfo := sa.responseInfo.rebindDest remote }
  else sa

/-- what `ikev2_established_recv` does before its `switch` -/
def followSource (env : Env) (sa : Sa) (packet : Bytes) (remote local_ : Endpoint) : Sa :=
  let sa :=
    if !(exchangeType packet == exchInformational && !isResponse packet)
        && mobikeEndpointChanged sa remote then mobikeApply env sa remote local_
    else sa
  if sa.state == .established then tcpRebind env sa remote else sa

theorem followSource_stays {env : Env} {sa : Sa} {packet : Bytes} {remote local_ : Endpoint}
    (hm : mobikeEndpointChanged sa remote = false)
    (ht : sa.state = .established → tcpRebinds env sa remote = false) :
    followSource env sa packet remote local_ = sa := by
  unfold followSource
  rw [hm]
  simp only [Bool.and_false, Bool.false_eq_true, if_false]
  split
  · rename_i hs
    have hst : sa.state = .established := by simpa using hs
    unfold tcpRebind
    rw [ht hst]
    rfl
  · rfl

/-! ## responses -/

def childAbort (sa : Sa) (c : ChildSa) : Sa :=
  sa.setChild c.childId fun c => { c with state := .expired }

/-- `ikev2_createchild_initiator_recv` -/
def createchildInitiatorRecv (h : Handlers) : Handler := fun env sa packet remote local_ =>
  match findRequest sa (messageId packet) with
  | none => wakeupPending env sa
  | some c =>
    let (sa, out) :=
      if c.state = .requestSent then h.requestCallback c env sa packet remote local_
      else if c.state = .waitResponse then
        h.createchildResponse c env (updateMessageIdResponse sa (messageId packet)) packet remote
          local_
      else (childAbort sa c, [])
    let (sa, out') := wakeupPending env sa
    (sa, out ++ out')

/-- `informational_initiator_recv` -/
def informationalInitiatorRecv (h : Handlers) : Handler := fun env sa packet remote local_ =>
  match findRequest sa (messageId packet) with
  | none => wakeupPending env sa
  | some c =>
    if c.state ≠ .requestSent then wakeupPending env sa
    else
      let (sa, out) := h.requestCallback c env (updateMessageIdResponse sa (messageId packet))
        packet remote local_
      let (sa, out') := wakeupPending env (sa.setChild c.childId fun c => { c with state := .expired })
      (sa, out ++ out')

/-- a response to an IKE_FOLLOWUP_KE request of ours belongs to a pending child or rekey -/
def followupMatches (sa : Sa) (id : Nat) : Bool :=
  (sa.children.any fun c => c.addkePending && c.addkeFollowupMsgid == id)
    || sa.rekeyFollowupMsgid == some id

def followupKeRecv (h : Handlers) : Handler := fun env sa packet remote local_ =>
  if isResponse packet then
    if followupMatches sa (messageId packet) then h.followupResponse env sa packet remote local_
    else (sa, [])
  else h.followupRequest env sa packet remote local_

def invalidSyntax : Nat := 7

/-- the default branch: an exchange type nobody expects -/
def unexpectedExchange : Handler := fun env sa packet remote local_ =>
  if isResponse packet then (sa, [])
  else
    (if env.responded then updateMessageIdRequest sa (messageId packet) else sa,
      [.respondError (messageId packet) invalidSyntax remote])

def establishedSwitch (h : Handlers) : Handler := fun env sa packet remote local_ =>
  if exchangeType packet = exchCreateChildSa then
    if isResponse packet then createchildInitiatorRecv h env sa packet remote local_
    else h.createchildResponder env sa packet remote local_
  else if exchangeType packet = exchInformational then
    if isResponse packet then informationalInitiatorRecv h env sa packet remote local_
    else h.informationalResponder env sa packet remote local_
  else if exchangeType packet = exchIkeFollowupKe then followupKeRecv h env sa packet remote local_
  else unexpectedExchange env sa packet remote local_

def establishedRecv (h : Handlers) : Handler := fun env sa packet remote local_ =>
  establishedSwitch h env (followSource env sa packet remote local_) packet remote local_

/-! ## the dispatch table -/

/-- the response `initiator_ike_sa_init_recv` and `initiator_ike_session_resume_recv` expect -/
def isInitResponse (packet : Bytes) (exch : UInt8) : Bool :=
  exchangeType packet == exch && !hasInitiatorFlag packet && isResponse packet

/-- the tests of `initiator_ike_intermediate_recv`; `none`: the SA is aborted -/
def intermediateAccepts (sa : Sa) (packet : Bytes) : Option Bool :=
  if !sa.intermediateNegotiated || sa.addke == 0 then none
  else if !isResponse packet then none
  else some (exchangeType packet == exchIkeIntermediate
    && messageId packet == sa.intermediateMsgid)

/-- `(*ikev2_input_dispatch[ike_sa->state])(...)` -/
def dispatch (h : Handlers) : Handler := fun env sa packet remote local_ =>
  match sa.state with
  | .established => establishedRecv h env sa packet remote local_
  | .dying => establishedRecv h env sa packet remote local_
  | .dead => (sa, [])
  | .iniIkeSaInitSent =>
    if isInitResponse packet exchIkeSaInit then
      h.ofState .iniIkeSaInitSent env sa packet remote local_
    else (sa, [])
  | .iniIkeSessionResumeSent =>
    if isInitResponse packet exchIkeSessionResume then
      h.ofState .iniIkeSessionResumeSent env sa packet remote local_
    else (sa, [])
  | .resIkeSaInitSent =>
    if sa.multiAuthRound ≠ 0 ∧ exchangeType packet ≠ exchIkeAuth then (sa, [])
    else h.ofState .resIkeSaInitSent env sa packet remote local_
  | .iniIkeAuthSent =>
    if exchangeType packet ≠ exchIkeAuth then (sa, [])
    else h.ofState .iniIkeAuthSent env sa packet remote local_
  | .iniIkeIntermediateSent =>
    match intermediateAccepts sa packet with
    | none => (sa.abort, [])
    | some false => (sa, [])
    | some true => h.ofState .iniIkeIntermediateSent env sa packet remote local_
  | .idling => h.ofState .idling env sa packet remote local_
  | .resIkeAuthRcvd => h.ofState .resIkeAuthRcvd env sa packet remote local_
  | .iniIkeAuthRcvd => h.ofState .iniIkeAuthRcvd env sa packet remote local_
  | .resIkeAuthEap => h.ofState .resIkeAuthEap env sa packet remote local_
  | .resIkeAuthEapFinal => h.ofState .resIkeAuthEapFinal env sa packet remote local_

end Ikev2
