import Racoon2.Iked.Established
import Racoon2.Iked.Protect

/-!
# ikev2_input

The receive path from the datagram to the handler, in the order of the source: SA lookup
(`findSa`), the quick-crash-detection reply to an unknown SA (`qcdRespond`), the replay of a
cached IKE_INTERMEDIATE response, reassembly, the syntax check, the request that starts a new SA
(`checkNewRequest`), then the tests on an existing SA (`classify`), and the dispatch.

IKE_SA_INIT and IKE_SESSION_RESUME messages are not protected, so `classify` lets them through on
the window alone; every other message needs its integrity check, its window and its decryption,
in this order.

The configuration lookup, the cookie rules and the allocation of a new SA are left to
`World.accept`: they touch no SA that exists.
-/

set_option linter.unusedVariables false

namespace Ikev2
open Bytes

/-- state of the daemon outside its SAs -/
structure World where
  qcdSecret : Option Bytes
  /-- HMAC-SHA1 -/
  hmacSha1 : Bytes → Bytes → Option Bytes
  /-- a new request finds a configuration, passes the cookie rules and gets its SA -/
  accept : Bytes → Endpoint → Endpoint → Option Sa

/-! ## the SA of a message -/

/-- the comparison of `ikev2_find_sa` with one SA -/
def saMatches (packet : Bytes) (sa : Sa) : Bool :=
  if !hasInitiatorFlag packet && sa.isInitiator then initiatorSpi packet == sa.spiI
  else if hasInitiatorFlag packet && !sa.isInitiator then
    if exchangeType packet == exchIkeSaInit && !isResponse packet then
      initiatorSpi packet == sa.spiI && sa.peerFirstMessage.map Subtype.val == some packet
    else initiatorSpi packet == sa.spiI && responderSpi packet == sa.spiR
  else false

/-- `ikev2_find_sa`, as a position in the list of SAs -/
def findSa (sas : List Sa) (packet : Bytes) : Option Nat := sas.findIdx? (saMatches packet)

/-! ## quick crash detection -/

def qcdTokenLen : Nat := 16
def notifyInvalidIkeSpi : Nat := 4
def notifyQcdToken : Nat := 16419

/-- `ikev2_qcd_token` -/
def qcdToken (w : World) (spiI spiR : Bytes) : Option Bytes :=
  match w.qcdSecret with
  | none => none
  | some secret => (w.hmacSha1 secret (spiI ++ spiR)).map (List.take qcdTokenLen)

/-- a Notify payload without SPI -/
def notifyPayload (next : UInt8) (protocol : UInt8) (type : Nat) (data : Bytes) : Bytes :=
  [next, 0] ++ enc16 (8 + data.length) ++ [protocol, 0] ++ enc16 type ++ data

/-- the datagram `ikev2_qcd_respond` builds: INVALID_IKE_SPI and the token, outside any SA -/
def qcdReply (request token : Bytes) : Bytes :=
  initiatorSpi request ++ responderSpi request
    ++ [payloadNotify, 0x20, exchInformational, flagResponse]
    ++ slice request 20 4 ++ enc32 (28 + 8 + (8 + token.length))
    ++ notifyPayload payloadNotify 0 notifyInvalidIkeSpi []
    ++ notifyPayload noNextPayload 1 notifyQcdToken token

/-- a datagram sent outside any SA (`isakmp_sendto`) -/
structure Unprotected where
  data : Bytes
  dest : Endpoint
  deriving DecidableEq

def qcdRespond (w : World) (env : Env) (request : Bytes) (remote : Endpoint) :
    List Unprotected :=
  if !env.ratelimit then []
  else match qcdToken w (initiatorSpi request) (responderSpi request) with
    | none => []
    | some token => [⟨qcdReply request token, remote⟩]

/-- the loop of `ikev2_qcd_taker_recv`; it stops at an Encrypted payload -/
def qcdTakerLoop (token : Bytes) : Nat → UInt8 → Bytes → Bool
  | 0, _, _ => false
  | n+1, type, p =>
    if type = noNextPayload then false
    else if p.length < payloadHeaderSize then false
    else if type = payloadEncrypted ∨ type = payloadSkf then false
    else if payloadLength p < payloadHeaderSize ∨ p.length < payloadLength p then false
    else if type = payloadNotify ∧ be16 p 6 = notifyQcdToken ∧ byteAt p 5 = 0
        ∧ 8 + 16 ≤ payloadLength p ∧ payloadLength p ≤ 8 + 128
        ∧ slice p 8 (payloadLength p - 8) = token then true
    else qcdTakerLoop token n (payloadNext p) (pointNext p)

def qcdTakerRecv (sa : Sa) (packet : Bytes) : Bool :=
  match sa.qcdTokenPeer with
  | none => false
  | some token =>
    qcdTakerLoop token (packet.length + 1) (nextPayload packet) (firstPayload packet)

/-! ## a message that starts an SA -/

def spiIsZero (spi : Bytes) : Bool := spi.all (· == 0)

/-- how `ikev2_check_new_request` ends -/
inductive NewRequest where
  | drop
  | qcd
  | start
  deriving DecidableEq

def checkNewRequest (packet : Bytes) : NewRequest :=
  if isResponse packet then .drop
  else if !(spiIsZero (responderSpi packet) && messageId packet == 0
      && isCleartextExchange packet) then .qcd
  else if spiIsZero (initiatorSpi packet) then .drop
  else .start

/-! ## a message to an SA -/

/-- what `ikev2_input` does with a message it found the SA of -/
inductive Verdict where
  | drop
  /-- `ikev2_retransmit_forced` answered from the cache -/
  | cached
  /-- out of the window and ahead of it -/
  | invalidMessageId
  /-- the peer proved a crash with our QCD token -/
  | abort
  /-- the handler gets this packet -/
  | dispatch (packet : Bytes)
  deriving DecidableEq

/-- the response cache and the window; `next` is what an acceptable message gets -/
def classifyWindow (sa : Sa) (packet : Bytes) (invalid : Bool) (next : Verdict) : Verdict :=
  if retransmitForced sa (messageId packet) (isResponse packet) then .cached
  else if checkMessageOrdering sa (messageId packet) (isResponse packet) then next
  else if invalid && !isResponse packet && decide (sa.recvMessageId < messageId packet) then
    .invalidMessageId
  else .drop

/-- decryption and the second syntax check -/
def classifyDecrypt (sa : Sa) (packet : Bytes) : Verdict :=
  match decrypt sa packet with
  | none => .drop
  | some plain => if checkPayloads plain false then .dispatch plain else .drop

def classifyProtected (sa : Sa) (packet : Bytes) : Verdict :=
  if nextPayload packet = payloadNotify ∧ exchangeType packet = exchInformational
      ∧ isResponse packet = true ∧ qcdTakerRecv sa packet = true then .abort
  else if nextPayload packet ≠ payloadEncrypted ∧ nextPayload packet ≠ payloadSkf then .drop
  else if !sa.hasRecvKeys then .drop
  else if !checkIcv sa packet && !checkIcvPrevGen sa packet then .drop
  else classifyWindow sa packet true (classifyDecrypt sa packet)

/-- from the syntax check to the dispatch; `whole` if the packet was reassembled from fragments -/
def classify (sa : Sa) (whole : Bool) (packet : Bytes) : Verdict :=
  if !checkPayloads packet true then .drop
  else if isCleartextExchange packet then classifyWindow sa packet false (.dispatch packet)
  else if whole then classifyWindow sa packet true (.dispatch packet)
  else classifyProtected sa packet

def perform (h : Handlers) (env : Env) (sa : Sa) (packet : Bytes) (remote local_ : Endpoint) :
    Verdict → Sa × List Effect
  | .drop => (sa, [])
  | .cached => (retransmitForcedSa sa local_ remote, retransmitForcedOut env sa local_ remote)
  | .invalidMessageId => sendInvalidMessageId env sa
  | .abort => (sa.abort, [])
  | .dispatch p => dispatch h env sa p remote local_

/-! ## the whole of it -/

/-- a retransmitted request of an IKE_INTERMEDIATE round that was answered -/
def isIntermediateReplay (sa : Sa) (packet : Bytes) (remote : Endpoint) : Bool :=
  exchangeType packet == exchIkeIntermediate && sa.intermediateReplay.isSome
    && messageId packet == sa.intermediateReplayMsgid && sameEndpoint remote sa.remoteEp

/-- `ikev2_replay_intermediate_response`, at most once a second -/
def replayIntermediateResponse (env : Env) (sa : Sa) : Sa × List Effect :=
  if env.now < sa.intermediateReplaySent + 1 then (sa, [])
  else ({ sa with intermediateReplaySent := env.now }, [.replayIntermediate sa.remoteEp])

/-- where a datagram goes -/
inductive Route where
  | ignore
  /-- a message to an SA that was not found -/
  | qcd (packet : Bytes)
  | replay (k : Nat) (sa : Sa)
  /-- the SA at position `k` gets the packet; `whole` if it was reassembled -/
  | found (k : Nat) (sa : Sa) (whole : Bool) (packet : Bytes)

section
variable (w : World) (env : Env)

/-- a message without SA, past the reply to an unknown one; a new SA joins the list -/
def routeNew (sas : List Sa) (whole : Bool) (packet : Bytes) (remote local_ : Endpoint) :
    List Sa × Route :=
  if !checkPayloads packet true then (sas, .ignore)
  else match checkNewRequest packet with
    | .drop => (sas, .ignore)
    | .qcd => (sas, .qcd packet)
    | .start =>
      match w.accept packet remote local_ with
      | none => (sas, .ignore)
      | some sa => (sas ++ [sa], .found sas.length sa whole packet)

/-- a complete set of fragments is looked up again -/
def routeWhole (sas : List Sa) (packet : Bytes) (remote local_ : Endpoint) : List Sa × Route :=
  match findSa sas packet with
  | none => routeNew w sas true packet remote local_
  | some k =>
    match sas[k]? with
    | none => (sas, .ignore)
    | some sa => (sas, .found k sa true packet)

def inputRoute (sas : List Sa) (packet : Bytes) (remote local_ : Endpoint) : List Sa × Route :=
  match findSa sas packet with
  | none =>
    if !isCleartextExchange packet then (sas, .qcd packet)
    else if nextPayload packet = payloadSkf then (sas, .ignore)
    else routeNew w sas false packet remote local_
  | some k =>
    match sas[k]? with
    | none => (sas, .ignore)
    | some sa =>
      if isIntermediateReplay sa packet remote then (sas, .replay k sa)
      else if nextPayload packet = payloadSkf then
        let (chain, merged) := fragRecv env.now sa packet
        match merged with
        | none => (sas.set k { sa with fragChain := chain }, .ignore)
        | some merged => routeWhole w (sas.set k { sa with fragChain := chain }) merged remote local_
      else (sas, .found k sa false packet)

variable (h : Handlers)

/-- the SAs after a datagram, what they sent, and what was sent outside any SA -/
structure Outcome where
  sas : List Sa
  effects : List Effect
  unprotected : List Unprotected

def ikev2Input (sas : List Sa) (packet : Bytes) (remote local_ : Endpoint) : Outcome :=
  match inputRoute w env sas packet remote local_ with
  | (sas, .ignore) => ⟨sas, [], []⟩
  | (sas, .qcd packet) => ⟨sas, [], qcdRespond w env packet remote⟩
  | (sas, .replay k sa) =>
    let (sa, out) := replayIntermediateResponse env sa
    ⟨sas.set k sa, out, []⟩
  | (sas, .found k sa whole packet) =>
    let (sa, out) := perform h env sa packet remote local_ (classify sa whole packet)
    ⟨sas.set k sa, out, []⟩

end

end Ikev2
