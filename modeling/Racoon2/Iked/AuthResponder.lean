import Racoon2.Iked.Auth

/-!
# The responder's side of IKE_AUTH

The five routes of `ikev2_sa_auth.c` from the answered IKE_SA_INIT to an established SA: a plain
AUTH (`responder_ike_sa_auth_recv0` and `_cont`), the childless IKE_AUTH, the EAP relay with its
final AUTH, and the second round of RFC 4739 with a pre-shared key or with EAP.

The messages are authentic and inside the window (`ikev2_input` has seen to that), and are given as
lists of payloads; message ids, the SA's own AUTH and the texts it logs are left out.  The SA
carries two histories that the source does not keep and no handler reads: the verified AUTH payloads
and the MSKs its own RADIUS relay got with an Access-Accept.
-/

set_option linter.unusedVariables false

namespace Ikev2
open Bytes

/-! ## messages -/

/-- a payload of a decrypted IKE_AUTH message -/
inductive MessagePayload where
  | encrypted
  | idI (id : Ident)
  | idR (id : Ident)
  | cert (encoding : UInt8) (data : Bytes)
  | certreq
  | auth (auth : AuthPayload)
  | sa (octets : Bytes)
  | tsI (octets : Bytes)
  | tsR (octets : Bytes)
  | notify (type : Nat) (data : Bytes)
  | vendorId
  | config (octets : Bytes)
  | eap (packet : Bytes)
  | other (type : UInt8) (critical : Bool)
  deriving DecidableEq

structure AuthMessage where
  exchangeType : UInt8
  payloads : List MessagePayload

def notifyMultipleAuthSupported : Nat := 16404
def notifyAnotherAuthFollows : Nat := 16405
def notifyEapOnlyAuthentication : Nat := 16417
def notifyPpkIdentity : Nat := 16436

/-! ## the SA -/

inductive VerifyResult where
  | waiting
  | success
  | failure
  deriving DecidableEq, Repr

/-- an AUTH payload that verified; `second` after the first round of RFC 4739 -/
structure VerifiedRound where
  method : UInt8
  key : KeySource
  id : Ident
  second : Bool
  deriving DecidableEq, Repr

/-- `struct ikev2_eap_relay` -/
structure Relay where
  finished : Bool
  /-- the EAP-Request the client has not answered -/
  pending : Option Bytes
  deriving DecidableEq, Repr

/-- a responder's SA during authentication -/
structure ResponderSa extends AuthInput where
  state : State
  multiAuthRound : Nat
  peerMultiAuth : Bool
  peerAnotherAuth : Bool
  eapOnly : Bool
  eapOnlyHonored : Bool
  eapMethod : Nat
  eapRelay : Option Relay
  eapRoundInFlight : Bool
  /-- the child offer kept from the first IKE_AUTH -/
  eapSaI2 : Option Bytes
  eapTsI : Option Bytes
  eapTsR : Option Bytes
  /-- `verified_info.result` -/
  verifiedResult : VerifyResult
  ppkActive : Bool
  peerPpkIdentityOk : Bool
  childlessAdvertised : Bool
  /-- the Child SAs built under it -/
  children : Nat
  verified : List VerifiedRound
  accepted : List Bytes

/-- what one step finds outside the SA -/
structure AuthEnv where
  /-- `ikev2_respond_error()` or `ikev2_respond_null()` returned 0 -/
  responded : Bool
  /-- the response of the step left -/
  sent : Bool
  /-- `ikev2_create_child_responder()` returned 0 -/
  childAccepted : Bool
  /-- our own method, if one is configured and its key can be read -/
  responderMethod : Nat
  /-- identity, server and secret of the RADIUS request are in order -/
  radiusReady : Bool
  /-- `ikev2_eap_round_submit()` returned 0 -/
  submitted : Bool
  /-- `ikev2_process_notify()` refuses this type -/
  notifyRefused : Nat → Bool
  /-- `rcf_remote_head`, the remotes with an ikev2 section -/
  remotes : List Remote

def ResponderSa.abort (sa : ResponderSa) : ResponderSa := { sa with state := .dead }

/-- the label `notify:`, an error response and the end of the SA -/
def notifyAbort (env : AuthEnv) (sa : ResponderSa) : ResponderSa :=
  if env.responded then sa.abort else sa

/-! ## configuration -/

/-- `ikev2_eap_remote` -/
def eapRemote (conf : Remote) : Bool := conf.kmpAuthMethod.contains .eap

/-- `ikev2_eap_sig_configured` -/
def eapSigConfigured (conf : Remote) : Bool := conf.kmpAuthMethod.any (· != .eap)

/-- `ikev2_conf_find_by_id` -/
def confFindById (c : Crypto) (remotes : List Remote) (id : Ident) : Option Remote :=
  remotes.find? fun conf => peerIdOk c conf.peersId id

/-- `ikev2_multi_auth_decide` -/
inductive MultiAuth where
  | single
  | secondRound
  | refuse
  deriving DecidableEq, Repr

def multiAuthDecide (cfg_on peer_supported another can_second required : Bool) (round : Nat) :
    MultiAuth :=
  if !another then if cfg_on && required && round == 0 then .refuse else .single
  else if !cfg_on || round != 0 then .refuse
  else if !peer_supported then .refuse
  else if !can_second then .refuse
  else .secondRound

/-! ## the payloads of a request -/

structure Collected where
  idI : Option Ident
  idR : Option Ident
  auth : Option AuthPayload
  sa : Option Bytes
  tsI : Option Bytes
  tsR : Option Bytes

def Collected.empty : Collected := ⟨none, none, none, none, none, none⟩

/-- how the loop over the payloads ends -/
inductive Scanned where
  | fine (c : Collected)
  | duplicate
  | critical (type : UInt8)

/-- the loop of `responder_ike_sa_auth_recv0` -/
def scanRequest : List MessagePayload → ResponderSa → Collected → ResponderSa × Scanned
  | [], sa, col => (sa, .fine col)
  | .encrypted :: ps, sa, col => scanRequest ps sa col
  | .idI id :: ps, sa, col =>
    if col.idI.isSome then (sa, .duplicate) else scanRequest ps sa { col with idI := some id }
  | .cert encoding data :: ps, sa, col =>
    scanRequest ps { sa with toAuthInput := sa.captureCert encoding data } col
  | .certreq :: ps, sa, col => scanRequest ps sa col
  | .idR id :: ps, sa, col =>
    if col.idR.isSome then (sa, .duplicate) else scanRequest ps sa { col with idR := some id }
  | .auth a :: ps, sa, col =>
    if col.auth.isSome then (sa, .duplicate) else scanRequest ps sa { col with auth := some a }
  | .sa o :: ps, sa, col =>
    if col.sa.isSome then (sa, .duplicate) else scanRequest ps sa { col with sa := some o }
  | .tsI o :: ps, sa, col =>
    if col.tsI.isSome then (sa, .duplicate) else scanRequest ps sa { col with tsI := some o }
  | .tsR o :: ps, sa, col =>
    if col.tsR.isSome then (sa, .duplicate) else scanRequest ps sa { col with tsR := some o }
  | .notify type data :: ps, sa, col =>
    scanRequest ps (if type = notifyEapOnlyAuthentication ∧ eapRemote sa.conf = true then
      { sa with eapOnly := true } else sa) col
  | .vendorId :: ps, sa, col => scanRequest ps sa col
  | .config o :: ps, sa, col => scanRequest ps sa col
  | .eap packet :: ps, sa, col => (sa, .critical payloadEap)
  | .other type critical :: ps, sa, col =>
    if critical || payloadTypeIsCritical type then (sa, .critical type) else scanRequest ps sa col

/-- the notifications `responder_ike_sa_auth_cont` acts on; `false`: the exchange is aborted -/
def recvNotifies (env : AuthEnv) : List MessagePayload → ResponderSa → ResponderSa × Bool
  | [], sa => (sa, true)
  | .notify type data :: ps, sa =>
    if type = notifyPpkIdentity then
      recvNotifies env ps { sa with peerPpkIdentityOk := sa.conf.ppkId.any fun my =>
        my == data || match data with
          | t :: rest => (t == 1 || t == 2) && rest == my
          | [] => false }
    else if type = notifyMultipleAuthSupported then
      recvNotifies env ps { sa with peerMultiAuth := sa.peerMultiAuth || sa.conf.multipleAuth }
    else if type = notifyAnotherAuthFollows then
      recvNotifies env ps { sa with peerAnotherAuth := sa.peerAnotherAuth || sa.conf.multipleAuth }
    else if env.notifyRefused type then (sa, false)
    else recvNotifies env ps sa
  | _ :: ps, sa => recvNotifies env ps sa

/-- the last payload of a kind -/
def lastOf (f : MessagePayload → Option α) (payloads : List MessagePayload) : Option α :=
  (payloads.filterMap f).getLast?

def MessagePayload.idR? : MessagePayload → Option Ident
  | .idR id => some id
  | _ => none

def MessagePayload.sa? : MessagePayload → Option Bytes
  | .sa o => some o
  | _ => none

def MessagePayload.tsI? : MessagePayload → Option Bytes
  | .tsI o => some o
  | _ => none

def MessagePayload.tsR? : MessagePayload → Option Bytes
  | .tsR o => some o
  | _ => none

def MessagePayload.config? : MessagePayload → Option Bytes
  | .config o => some o
  | _ => none

def MessagePayload.eap? : MessagePayload → Option Bytes
  | .eap packet => some packet
  | _ => none

section
variable (c : Crypto) (env : AuthEnv)

/-! ## sending -/

/-- `ikev2_responder_eap_auth_send`; `hasEap` if it carries an EAP request -/
def responderEapAuthSend (hasEap : Bool) (sa : ResponderSa) : ResponderSa × Bool :=
  if eapSigConfigured sa.conf && env.responderMethod != 0 then (sa, env.sent)
  else if eapSigConfigured sa.conf then (sa.abort, false)
  else if sa.eapOnly && hasEap then ({ sa with eapOnlyHonored := true }, env.sent)
  else (sa.abort, false)

/-- `ikev2_create_child_responder` on this offer -/
def createChild (sa : ResponderSa) : ResponderSa :=
  if env.childAccepted then { sa with children := sa.children + 1 } else notifyAbort env sa

/-! ## after AUTH verified -/

/-- `responder_multi_auth_round1`; `none`: the exchange fails -/
def multiAuthRound1 (saI2 tsI tsR : Option Bytes) (sa : ResponderSa) : ResponderSa × Bool :=
  if !(saI2.isSome && tsI.isSome && tsR.isSome) then (sa, false)
  else
    let sa := { sa with
      eapSaI2 := saI2, eapTsI := tsI, eapTsR := tsR, peerCert := none, peerCertExtra := [] }
    let (sa, ok) := responderEapAuthSend env false sa
    if !ok then (sa, false)
    else ({ sa with multiAuthRound := 1, peerAnotherAuth := false, state := .resIkeSaInitSent },
      true)

/-- the end of `responder_ike_sa_auth_cont`: with a child, or without one (RFC 6023) -/
def finishAuth (saI2 tsI tsR cfg : Option Bytes) (sa : ResponderSa) : ResponderSa :=
  if !(saI2.isSome || tsI.isSome || tsR.isSome) then
    if !sa.childlessAdvertised then notifyAbort env sa
    else if sa.conf.configRequired && cfg.isNone then notifyAbort env sa
    else if env.sent then { sa with state := .established }
    else notifyAbort env sa
  else if !(saI2.isSome && tsI.isSome && tsR.isSome) then notifyAbort env sa
  else if sa.conf.configRequired && cfg.isNone then notifyAbort env sa
  else createChild env sa

/-- the decision on a second round -/
def decideRounds (payloads : List MessagePayload) (sa : ResponderSa) : ResponderSa :=
  let saI2 := lastOf MessagePayload.sa? payloads
  let tsI := lastOf MessagePayload.tsI? payloads
  let tsR := lastOf MessagePayload.tsR? payloads
  match multiAuthDecide sa.conf.multipleAuth sa.peerMultiAuth sa.peerAnotherAuth
      (eapRemote sa.conf || sa.conf.multiAuthSecondId.isSome) sa.conf.multiAuthSecondId.isSome
      sa.multiAuthRound with
  | .single => finishAuth env saI2 tsI tsR (lastOf MessagePayload.config? payloads) sa
  | .secondRound =>
    let (sa, ok) := multiAuthRound1 env saI2 tsI tsR sa
    if ok then sa else notifyAbort env sa
  | .refuse => notifyAbort env sa

/-- IDr names one of our identities -/
def idROk (conf : Remote) (payloads : List MessagePayload) : Bool :=
  match lastOf MessagePayload.idR? payloads with
  | none => true
  | some id => peerIdOk c conf.myId id

/-- `responder_ike_sa_auth_cont` -/
def responderAuthCont (result : VerifyResult) (payloads : List MessagePayload)
    (sa : ResponderSa) : ResponderSa :=
  match result with
  | .waiting => sa
  | .failure => notifyAbort env sa
  | .success =>
    if !idROk c sa.conf payloads then notifyAbort env { sa with verifiedResult := .failure }
    else
      let (sa, ok) := recvNotifies env payloads sa
      if !ok then notifyAbort env sa
      else if sa.ppkActive && !sa.peerPpkIdentityOk then notifyAbort env sa
      else decideRounds env payloads sa

/-! ## the first request of a round -/

/-- the EAP-Request/Identity of `ikev2_eap_relay_start(relay, 1)` -/
def eapIdentityRequest : Bytes := [1, 1, 0, 5, 1]

/-- IDi without AUTH to an EAP remote: the relay starts -/
def eapStart (id : Ident) (col : Collected) (sa : ResponderSa) : ResponderSa :=
  if !eapSigConfigured sa.conf && !sa.eapOnly then notifyAbort env sa
  else
    let sa := { sa with
      idI := some id, eapRelay := some ⟨false, some eapIdentityRequest⟩
      eapSaI2 := col.sa.or sa.eapSaI2, eapTsI := col.tsI.or sa.eapTsI
      eapTsR := col.tsR.or sa.eapTsR }
    if sa.conf.verifyId && !peerIdOk c sa.conf.peersId id then
      { sa with eapRelay := none }.abort
    else if sa.multiAuthRound ≠ 0 then { sa with state := .resIkeAuthEap }
    else (responderEapAuthSend env true { sa with state := .resIkeAuthEap }).1

/-- the configuration that applies to an identity: the default clause is left for the remote
that names it, if there is one -/
def selectConf (id : Ident) (conf : Remote) : Remote :=
  if conf.isDefault then (confFindById c env.remotes id).getD conf else conf

/-- `ikev2_verify` and its callback -/
def verifyPlain (id : Ident) (auth : AuthPayload) (payloads : List MessagePayload)
    (sa : ResponderSa) : ResponderSa :=
  match authVerify c sa.toAuthInput true auth with
  | none =>
    responderAuthCont c env .failure payloads
      { sa with state := .resIkeAuthRcvd, verifiedResult := .failure }
  | some key =>
    responderAuthCont c env .success payloads
      { sa with
        state := .resIkeAuthRcvd, verifiedResult := .success
        verified := sa.verified ++ [VerifiedRound.mk auth.method key id false] }

/-- IDi and AUTH in the first round -/
def plainAuth (id : Ident) (auth : AuthPayload) (payloads : List MessagePayload)
    (sa : ResponderSa) : ResponderSa :=
  if sa.conf.isDefault then
    verifyPlain c env id auth payloads
      { sa with idI := some id, conf := selectConf c env id sa.conf }
  else if sa.conf.verifyId then
    if (idToRc id.idType).isNone then { sa with idI := some id }
    else if !peerIdOk c sa.conf.peersId id then notifyAbort env { sa with idI := some id }
    else verifyPlain c env id auth payloads { sa with idI := some id }
  else verifyPlain c env id auth payloads { sa with idI := some id }

/-- `responder_multi_auth_round2` -/
def multiAuthRound2 (id : Ident) (auth : AuthPayload) (sa : ResponderSa) : ResponderSa :=
  if auth.method ≠ authSharedKey ∨ sa.conf.multiAuthSecondId ≠ some id
      ∨ !(sa.eapSaI2.isSome && sa.eapTsI.isSome && sa.eapTsR.isSome) then sa.abort
  else match authVerify c { sa.toAuthInput with idI := some id } true auth with
    | none => sa.abort
    | some key =>
      let sa := { sa with
        verified := sa.verified ++ [VerifiedRound.mk auth.method key id true], multiAuthRound := 2
        state := .resIkeAuthRcvd, eapSaI2 := none, eapTsI := none, eapTsR := none }
      if env.childAccepted then { sa with children := sa.children + 1 } else sa.abort

/-- `responder_ike_sa_auth_recv0` -/
def responderAuthRecv0 (m : AuthMessage) (sa : ResponderSa) : ResponderSa :=
  if sa.multiAuthRound ≠ 0 ∧ m.exchangeType ≠ exchIkeAuth then sa
  else if m.exchangeType = exchIkeIntermediate then sa
  else match scanRequest m.payloads sa .empty with
    | (sa, .duplicate) => notifyAbort env sa
    | (sa, .critical _) => notifyAbort env sa
    | (sa, .fine col) =>
      match col.idI, col.auth with
      | some id, some auth =>
        if sa.multiAuthRound ≠ 0 then
          if sa.conf.multiAuthSecondId.isSome then multiAuthRound2 c env id auth sa
          else notifyAbort env sa
        else plainAuth c env id auth m.payloads sa
      | some id, none =>
        if eapRemote sa.conf then eapStart c env id col sa else notifyAbort env sa
      | none, _ => notifyAbort env sa

/-! ## EAP -/

/-- `ikev2_eap_response_type` -/
def eapResponseType (packet : Bytes) : Option Nat :=
  if 5 ≤ be16 packet 2 ∧ be16 packet 2 ≤ packet.length ∧ byteAt packet 0 = 2 then
    some (byteAt packet 4).toNat
  else none

/-- `responder_ike_sa_auth_eap_recv` and `_cont` -/
def eapRecv (m : AuthMessage) (sa : ResponderSa) : ResponderSa :=
  match m.payloads.filterMap MessagePayload.eap? with
  | [packet] =>
    match sa.eapRelay.bind Relay.pending with
    | some pending =>
      if 2 ≤ packet.length ∧ 2 ≤ pending.length ∧ byteAt packet 1 ≠ byteAt pending 1 then sa
      else submit packet
    | none => submit packet
  | _ => sa.abort
where
  submit (packet : Bytes) : ResponderSa :=
    if sa.eapMsk.any (·.length == 64) then
      if env.sent then { sa with state := .resIkeAuthEapFinal } else sa
    else if !env.radiusReady then sa.abort
    else if sa.eapRoundInFlight then sa
    else if !env.submitted then sa.abort
    else { sa with
      eapRoundInFlight := true
      eapMethod :=
        match eapResponseType packet with
        | some type => if 3 < type then type else sa.eapMethod
        | none => sa.eapMethod }

/-- the answer of the RADIUS server -/
inductive RadiusReply where
  | none
  | challenge (eap : Option Bytes)
  | accept (msk : Option Bytes)
  | reject
  | other
  deriving DecidableEq

/-- the methods of RFC 5998 s4 -/
def eapSafeMethod (method : Nat) : Bool :=
  [13, 18, 19, 21, 23, 32, 43, 46, 48, 50, 51, 52, 53].contains method

/-- `responder_ike_sa_auth_eap_resume` with `ikev2_eap_drive_advance` -/
def eapResume (reply : RadiusReply) (sa : ResponderSa) : ResponderSa :=
  if !sa.eapRoundInFlight then sa
  else match sa.eapRelay, reply with
    | some ⟨false, _⟩, .challenge (some eap) =>
      { sa with eapRoundInFlight := false, eapRelay := some ⟨false, some eap⟩ }
    | some ⟨false, _⟩, .accept (some msk) =>
      let sa := { sa with
        eapRoundInFlight := false, eapRelay := some ⟨true, none⟩, eapMsk := some msk
        accepted := sa.accepted ++ [msk] }
      if sa.eapOnlyHonored && (msk.isEmpty || !eapSafeMethod sa.eapMethod) then sa.abort
      else if env.sent then { sa with state := .resIkeAuthEapFinal }
      else sa
    | _, _ => { sa with eapRoundInFlight := false }.abort

/-- the only payload of the final message is AUTH -/
def finalAuth (payloads : List MessagePayload) : Option AuthPayload :=
  match payloads.filter (· != .encrypted) with
  | [.auth auth] => some auth
  | _ => none

/-- `responder_ike_sa_auth_eap_final_recv` -/
def eapFinalRecv (m : AuthMessage) (sa : ResponderSa) : ResponderSa :=
  match finalAuth m.payloads, sa.idI with
  | some auth, some id =>
    if !sa.eapMsk.any (·.length == 64) then sa.abort
    else match authVerify c sa.toAuthInput true auth with
      | none => sa.abort
      | some key =>
        let sa := { sa with
          verified := sa.verified
            ++ [VerifiedRound.mk auth.method key id (sa.multiAuthRound != 0)] }
        if !(sa.eapSaI2.isSome && sa.eapTsI.isSome && sa.eapTsR.isSome) then sa.abort
        else
          let sa := { sa with state := .resIkeAuthRcvd }
          if env.childAccepted then
            { sa with children := sa.children + 1, eapSaI2 := none, eapTsI := none, eapTsR := none }
          else sa.abort
  | _, _ => sa.abort

/-! ## runs -/

inductive AuthEvent where
  /-- a request from the peer -/
  | message (m : AuthMessage)
  /-- the RADIUS round ends -/
  | radius (reply : RadiusReply)
  /-- an IKE_INTERMEDIATE round replaced the keys -/
  | rekeyed (skPI skPR intAuth : Bytes)
  /-- the first child is mature and the IKE_AUTH response leaves -/
  | childMature

def responderStep (ev : AuthEvent) (sa : ResponderSa) : ResponderSa :=
  match ev with
  | .message m =>
    match sa.state with
    | .resIkeSaInitSent => responderAuthRecv0 c env m sa
    | .resIkeAuthRcvd => responderAuthCont c env sa.verifiedResult m.payloads sa
    | .resIkeAuthEap => eapRecv env m sa
    | .resIkeAuthEapFinal => eapFinalRecv c env m sa
    | _ => sa
  | .radius reply => eapResume env reply sa
  | .rekeyed skPI skPR intAuth =>
    if sa.state = .resIkeSaInitSent ∧ sa.multiAuthRound = 0 then
      { sa with skPI, skPR, intAuth }
    else sa
  | .childMature =>
    -- `ikev2_responder_state1_send`
    if sa.state = .resIkeAuthRcvd ∧ sa.children ≠ 0 then { sa with state := .established } else sa

end

/-- the SA when IKE_SA_INIT has been answered -/
structure ResponderSa.Fresh (sa : ResponderSa) : Prop where
  state : sa.state = .resIkeSaInitSent
  multiAuthRound : sa.multiAuthRound = 0
  eapMsk : sa.eapMsk = none
  eapRelay : sa.eapRelay = none
  verifiedResult : sa.verifiedResult = .waiting
  children : sa.children = 0
  verified : sa.verified = []

/-- the states a run goes through -/
def responderRun (c : Crypto) : ResponderSa → List (AuthEnv × AuthEvent) → List ResponderSa
  | sa, [] => [sa]
  | sa, (env, ev) :: evs => sa :: responderRun c (responderStep c env ev sa) evs

end Ikev2
