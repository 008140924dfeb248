import Racoon2.Iked.Payload

/-!
# The IKE SA record

The fields of `struct ikev2_sa`, `struct ikev2_child_sa` and `struct transmit_info` that the
receive path reads or writes, and the small updates it is made of.  Cipher and MAC are OpenSSL's:
an SA carries them as functions (`Encryptor`, `Authenticator`).  What a call finds outside the
process (the clock, the kernel's answer to a migration, the fate of a send) is an `Env`.
-/

set_option linter.unusedVariables false

namespace Ikev2
open Bytes

/-! ## endpoints -/

inductive Family where
  | inet
  | inet6
  deriving DecidableEq, Repr

/-- a socket address -/
structure Endpoint where
  family : Family
  addr : Bytes
  scope : Nat
  port : Nat
  deriving DecidableEq, Repr

def Endpoint.v4 (a b c d : UInt8) (port : Nat) : Endpoint := ⟨.inet, [a, b, c, d], 0, port⟩

/-- `rcs_cmpsa_wop(a, b) == 0`: the port does not count, nor the scope of an IPv4 address -/
def sameAddr (a b : Endpoint) : Bool :=
  a.family == b.family && a.addr == b.addr && (a.family == .inet || a.scope == b.scope)

/-- `rcs_cmpsa(a, b) == 0` -/
def sameEndpoint (a b : Endpoint) : Bool := sameAddr a b && a.port == b.port

/-! ## states -/

/-- `enum ikev2_state` -/
inductive State where
  | idling
  | iniIkeSaInitSent
  | resIkeSaInitSent
  | iniIkeAuthSent
  | resIkeAuthRcvd
  | iniIkeAuthRcvd
  | established
  | dying
  | dead
  | resIkeAuthEap
  | iniIkeIntermediateSent
  | resIkeAuthEapFinal
  | iniIkeSessionResumeSent
  deriving DecidableEq, Repr

/-- `enum ikev2_child_state` -/
inductive ChildState where
  | idling
  | getspi
  | getspiDone
  | waitResponse
  | mature
  | expired
  | requestPending
  | requestSent
  deriving DecidableEq, Repr

/-! ## records -/

/-- the cipher of an SA: `icvLength` is nonzero for a combined-mode cipher (RFC 5282) -/
structure Encryptor where
  ivLength : Nat
  icvLength : Nat
  /-- `encryptor_decrypt(data, key, iv)` -/
  decrypt : Bytes → Bytes → Bytes → Option Bytes
  /-- `encryptor_decrypt_aead(data, key, iv, aad)` -/
  decryptAead : Bytes → Bytes → Bytes → Bytes → Option Bytes

/-- the MAC of an SA -/
structure Authenticator where
  outputLength : Nat
  /-- `auth_calculate(key, data)` -/
  calculate : Bytes → Bytes → Option Bytes

/-- `struct transmit_info`: what is armed for retransmission, and where it goes -/
structure TransmitInfo where
  messageId : Nat
  packet : Option Bytes
  frags : Option (List Bytes)
  src : Option Endpoint
  dest : Option Endpoint
  sentTime : Nat
  deriving DecidableEq, Repr

def TransmitInfo.idle : TransmitInfo := ⟨0, none, none, none, none, 0⟩

/-- something is armed -/
def TransmitInfo.armed (info : TransmitInfo) : Bool := info.packet.isSome || info.frags.isSome

/-- `struct ikev2_frag_item`; `parts` holds the fragments 1 to 64, `nextPayload` is `parts[0]` -/
structure FragItem where
  msgid : Nat
  totalFragments : Nat
  numReceived : Nat
  totalDataLen : Nat
  timeout : Nat
  nextPayload : UInt8
  parts : Nat → Option Bytes

/-- `struct ikev2_child_sa`, also the record of an INFORMATIONAL request of ours -/
structure ChildSa where
  childId : Nat
  isInitiator : Bool
  state : ChildState
  messageId : Nat
  localEp : Option Endpoint
  remoteEp : Option Endpoint
  addkePending : Bool
  addkeFollowupMsgid : Nat
  deriving DecidableEq, Repr

/-- `struct ikev2_sa` -/
structure Sa where
  isInitiator : Bool
  /-- `index.i_ck` and `index.r_ck` -/
  spiI : Bytes
  spiR : Bytes
  state : State
  localEp : Endpoint
  remoteEp : Endpoint
  /-- the request that started a responder's SA; it did not come in fragments -/
  peerFirstMessage : Option { m : Bytes // nextPayload m ≠ payloadSkf }
  sendMessageId : Nat
  recvMessageId : Nat
  requestPending : Nat
  transmitInfo : TransmitInfo
  responseInfo : TransmitInfo
  encryptor : Option Encryptor
  authenticator : Option Authenticator
  skD : Option Bytes
  skAI : Option Bytes
  skAR : Option Bytes
  skEI : Option Bytes
  skER : Option Bytes
  skPI : Option Bytes
  skPR : Option Bytes
  prevSkAR : Option Bytes
  prevSkER : Option Bytes
  fragSupported : Bool
  fragChain : List FragItem
  children : List ChildSa
  mobikeSupported : Bool
  behindNat : Bool
  peerBehindNat : Bool
  /-- `tcp_encap` of the remote's configuration -/
  tcpEncap : Bool
  eapMessageId : Nat
  eapMsk : Option Bytes
  multiAuthRound : Nat
  intermediateNegotiated : Bool
  /-- `negotiated_sa->addke` -/
  addke : Nat
  intermediateMsgid : Nat
  intermediateReplay : Option (List Bytes)
  intermediateReplayMsgid : Nat
  intermediateReplaySent : Nat
  /-- the message id of the outstanding IKE_FOLLOWUP_KE of an IKE SA rekey of ours -/
  rekeyFollowupMsgid : Option Nat
  qcdTokenPeer : Option Bytes
  invalidMsgidLastSent : Nat

/-- how `ikev2_wakeup_child_sa` went: the request left, waits for a Diffie-Hellman worker, or
could not be built or sent -/
inductive WakeResult where
  | sent
  | deferred
  | failed
  deriving DecidableEq, Repr

/-- what one call finds outside the process -/
structure Env where
  /-- `time(NULL)` -/
  now : Nat
  /-- `ratelimit()` lets an unprotected reply out -/
  ratelimit : Bool
  /-- `mobike_migrate_children()` returned 0 -/
  migrated : Bool
  /-- `ikev2_respond_error()` returned 0 -/
  responded : Bool
  /-- `tcp_srv_find_bound(remote, local)` found a live stream -/
  tcpBound : Endpoint → Endpoint → Bool
  wake : WakeResult
  /-- the next `child_id` -/
  nextChildId : Nat

/-- a call at time `now` in which nothing outside fails -/
def Env.calm (now : Nat) : Env :=
  { now, ratelimit := true, migrated := true, responded := true, tcpBound := fun _ _ => false,
    wake := .sent, nextChildId := 0 }

/-- what an SA sends -/
inductive Effect where
  /-- the armed response goes out again -/
  | resend (dest : Option Endpoint)
  /-- the cached IKE_INTERMEDIATE response goes out again, to the SA's peer -/
  | replayIntermediate (dest : Endpoint)
  /-- an error notification in a protected response -/
  | respondError (messageId notify : Nat) (dest : Endpoint)
  /-- a new request of ours -/
  | request (messageId : Nat)
  deriving DecidableEq, Repr

/-- `ikev2_allocate_sa`: everything else is zero -/
def Sa.allocate (isInitiator : Bool) (spiI spiR : Bytes) (localEp remoteEp : Endpoint) : Sa :=
  { isInitiator, spiI, spiR, state := .idling, localEp, remoteEp, peerFirstMessage := none,
    sendMessageId := 0, recvMessageId := 0, requestPending := 0, transmitInfo := .idle,
    responseInfo := .idle, encryptor := none, authenticator := none, skD := none, skAI := none,
    skAR := none, skEI := none, skER := none, skPI := none, skPR := none, prevSkAR := none,
    prevSkER := none, fragSupported := false, fragChain := [], children := [],
    mobikeSupported := false, behindNat := false, peerBehindNat := false, tcpEncap := false,
    eapMessageId := 0, eapMsk := none, multiAuthRound := 0, intermediateNegotiated := false,
    addke := 0, intermediateMsgid := 0, intermediateReplay := none, intermediateReplayMsgid := 0,
    intermediateReplaySent := 0, rekeyFollowupMsgid := none, qcdTokenPeer := none,
    invalidMsgidLastSent := 0 }

/-! ## small updates -/

/-- update the child with a given id -/
def Sa.setChild (sa : Sa) (id : Nat) (f : ChildSa → ChildSa) : Sa :=
  { sa with children := sa.children.map fun c => if c.childId = id then f c else c }

/-- the keys `ikev2_input` and `ikev2_frag_recv` verify and decrypt with -/
def Sa.recvAuthKey (sa : Sa) : Option Bytes := if sa.isInitiator then sa.skAR else sa.skAI
def Sa.recvEncKey (sa : Sa) : Option Bytes := if sa.isInitiator then sa.skER else sa.skEI

/-- `encryptor && encryptor_icv_length(encryptor) > 0` -/
def Sa.isAead (sa : Sa) : Bool :=
  match sa.encryptor with
  | none => false
  | some e => decide (0 < e.icvLength)

/-- the test of the deferred-keymat guards: the SA holds the keys it receives with -/
def Sa.hasRecvKeys (sa : Sa) : Bool :=
  (sa.isAead || sa.recvAuthKey.isSome) && sa.recvEncKey.isSome

/-- `ikev2_abort`: every child goes, and the SA is dead -/
def Sa.abort (sa : Sa) : Sa :=
  { sa with
    state := .dead
    children := sa.children.map fun c => { c with state := .expired } }

end Ikev2
