import Racoon2.Iked.Proposal
import Racoon2.Iked.TrafficSelector

/-!
# The record of a restart

`ikev2_resume_save`, `r2rs_validate` and `restore_one`: an established IKE SA is dumped to a record
of fixed size and rebuilt from it after a restart.

* `TrnsLinks`            the transforms of a proposal with both of their links;
* `R2rsSa`               the record, versions 3 to 6;
* `save_validates_iff`   which dumps the reader's check lets through;
* `save_response`        the response in a dump is the armed one;
* `restore_iff`          which records come back with what they hold;
* `resume_record`        all three.

A dump with a Child SA that waits for its IKE_FOLLOWUP_KE is refused when the link does not fit in
the record, and the fragments of a version 5 record are not armed.
-/

set_option linter.unusedVariables false

namespace Ikev2
open Bytes

/-! ## proposals as they are linked -/

def transformEsn : Nat := 5
def proposalEsp : Nat := 3

/-- `struct prop_pair` below a proposal: `next` leads to the next type, `tnext` to the next
alternative -/
inductive TrnsLinks where
  | null
  | node (trns : Option Selected) (next tnext : TrnsLinks)
  deriving DecidableEq, Repr

/-- a protocol of a proposal, with the head of its transforms -/
structure PropPair where
  protocol : Nat
  spi : Bytes
  tnext : TrnsLinks
  deriving DecidableEq, Repr

/-- `prop_spi_host` -/
def propSpiHost : List PropPair → Nat
  | [] => 0
  | p :: _ => if p.spi.length < 4 then 0 else be32 p.spi 0

/-- the suite of a Child SA in the record -/
structure Suite where
  encrId : Nat
  integrId : Nat
  encrKlen : Nat
  esn : Nat
  deriving DecidableEq, Repr

def Suite.empty : Suite := ⟨0, 0, 0, 0⟩

/-- the first attribute, where its type is the key length -/
def firstKeylen : List Attr → Option Nat
  | .short type value :: _ => if type = attrKeyLength then some value else none
  | .long type value :: _ => if type = attrKeyLength then some value.length else none
  | [] => none

/-- the `switch` of `suite_from_prop` -/
def Suite.add (c : Suite) (t : Selected) : Suite :=
  if t.type = transformEncr then
    match firstKeylen t.transform.attrs with
    | some klen => { c with encrId := t.transform.id, encrKlen := klen }
    | none => { c with encrId := t.transform.id }
  else if t.type = transformIntegr then { c with integrId := t.transform.id }
  else if t.type = transformEsn then { c with esn := t.transform.id % 256 }
  else c

/-- the loop of `suite_from_prop`, which goes along `tnext` -/
def suiteWalk : TrnsLinks → Suite → Suite
  | .null, c => c
  | .node none _ tnext, c => suiteWalk tnext c
  | .node (some t) _ tnext, c => suiteWalk tnext (c.add t)

/-- `suite_from_prop` -/
def suiteFromProp (p : PropPair) : Suite := suiteWalk p.tnext .empty

/-- a transform put behind the last one along `tnext` -/
def TrnsLinks.append : TrnsLinks → TrnsLinks → TrnsLinks
  | .null, t => t
  | .node trns next tnext, t => .node trns next (tnext.append t)

/-- `spi_prop` -/
def spiProp (proto spi : Nat) : PropPair := ⟨proto, enc32 spi, .null⟩

/-- `prop_add_trns` -/
def propAddTrns (p : PropPair) (type id keylen : Nat) : PropPair :=
  let attrs := if keylen = 0 then [] else [Attr.short attrKeyLength keylen]
  { p with tnext := p.tnext.append (.node (some ⟨type, id, attrs⟩) .null .null) }

/-! ## the record -/

def r2rsMagic : Nat := 0x52325253
def r2rsVersion : Nat := 6
def r2rsMaxresp : Nat := 4608
def r2rsMaxfrags : Nat := 8
def r2rsMaxfrag : Nat := 576
def r2rsMaxkey : Nat := 64
def r2rsMaxstr : Nat := 64
def r2rsMaxchild : Nat := 8

/-- the keys, nonces and identities of an IKE SA -/
inductive KeySlot where
  | skD | skAi | skAr | skEi | skEr | skPi | skPr | nI | nR | idI | idR
  deriving DecidableEq, Repr

def KeySlot.all : List KeySlot := [.skD, .skAi, .skAr, .skEi, .skEr, .skPi, .skPr, .nI, .nR, .idI, .idR]

structure R2rsKey where
  len : Nat
  data : Bytes
  deriving DecidableEq, Repr

structure R2rsChild where
  inSpi : Nat
  outSpi : Nat
  expireAt : Nat
  satype : Nat
  leaseAf : Nat
  leaseAddr : Bytes
  slIndex : Bytes
  suite : Suite
  isInitiator : Nat
  addkePending : Nat
  addkeLinkLen : Nat
  addkeMethod : Nat
  addkeLink : Bytes
  deriving DecidableEq, Repr

def R2rsChild.zero : R2rsChild := ⟨0, 0, 0, 0, 0, [], [], .empty, 0, 0, 0, 0, []⟩

/-- an address of the record -/
structure R2rsAddr where
  family : Nat
  port : Nat
  addr : Bytes
  deriving DecidableEq, Repr

/-- the suite of an IKE SA, `struct ikev2_isakmpsa` -/
structure IkeSuite where
  encr : Nat
  encrklen : Nat
  prf : Nat
  integr : Nat
  dhId : Nat
  deriving DecidableEq, Repr

structure R2rsSa where
  magic : Nat
  version : Nat
  iCk : Bytes
  rCk : Bytes
  isInitiator : Nat
  mobike : Nat
  frag : Nat
  behindNat : Nat
  peerBehindNat : Nat
  sendMessageId : Nat
  recvMessageId : Nat
  ikeExpireAt : Nat
  suite : IkeSuite
  localAddr : R2rsAddr
  remoteAddr : R2rsAddr
  rmIndex : Bytes
  key : KeySlot → R2rsKey
  nchild : Nat
  child : Fin r2rsMaxchild → R2rsChild
  respMsgid : Nat
  respLen : Nat
  respNfrags : Nat
  respFragLen : Fin r2rsMaxfrags → Nat
  respBuf : Bytes
  certDue : Nat

/-- the children that `nchild` counts -/
def R2rsSa.children (rec : R2rsSa) : List R2rsChild := (List.ofFn rec.child).take rec.nchild

/-- the fragment lengths that `resp_nfrags` counts -/
def R2rsSa.fragLens (rec : R2rsSa) : List Nat := (List.ofFn rec.respFragLen).take rec.respNfrags

def Family.code : Family → Nat
  | .inet => 2
  | .inet6 => 10

def familyOf (code : Nat) : Option Family :=
  if code = 2 then some .inet else if code = 10 then some .inet6 else none

/-- the check of `r2rs_validate` for one child -/
def childValid (c : R2rsChild) : Bool :=
  c.inSpi != 0 && c.outSpi != 0
    && (c.leaseAf == 0 || (familyOf c.leaseAf).isSome)
    && c.slIndex.contains 0
    && !(c.addkePending != 0
      && (c.addkeMethod == 0 || c.addkeLinkLen == 0 || r2rsMaxstr < c.addkeLinkLen))
    && c.addkeLinkLen ≤ r2rsMaxstr
    && c.isInitiator ≤ 1

/-- the check of the response, from version 6 on -/
def respValid (rec : R2rsSa) : Bool :=
  !(0 < rec.respLen && 0 < rec.respNfrags)
    && rec.fragLens.all (· ≤ r2rsMaxfrag)
    && rec.fragLens.sum ≤ r2rsMaxresp

/-- `r2rs_validate(...) == 0` -/
def r2rsValidate (rec : R2rsSa) : Bool :=
  rec.magic == r2rsMagic && rec.version ≤ r2rsVersion && 3 ≤ rec.version
    && rec.respLen ≤ r2rsMaxresp && rec.respNfrags ≤ r2rsMaxfrags
    && (rec.version < r2rsVersion || respValid rec)
    && rec.nchild ≤ r2rsMaxchild
    && KeySlot.all.all (fun k => (rec.key k).len ≤ r2rsMaxkey)
    && rec.children.all childValid
    && rec.rmIndex.contains 0

/-! ## the SA -/

structure ResumeLease where
  family : Family
  addr : Bytes
  deriving DecidableEq, Repr

/-- what a restart needs of a Child SA -/
structure ResumeChild where
  mature : Bool
  isInitiator : Bool
  myProposal : List PropPair
  peerProposal : List PropPair
  timer : Option Nat
  addkePending : Bool
  addkeMethod : Nat
  addkeLink : Option Bytes
  selector : Option Bytes
  leases : List ResumeLease
  deriving DecidableEq, Repr

/-- `response_info`, with a pointer to each fragment -/
structure ResponseInfo where
  messageId : Nat
  packet : Option Bytes
  frags : Option (List (Option Bytes))
  ends : Option (Endpoint × Endpoint)
  deriving DecidableEq, Repr

def ResponseInfo.empty : ResponseInfo := ⟨0, none, none, none⟩

/-- what a restart needs of an IKE SA -/
structure ResumeSa where
  established : Bool
  iCk : Bytes
  rCk : Bytes
  isInitiator : Bool
  mobike : Bool
  frag : Bool
  behindNat : Bool
  peerBehindNat : Bool
  sendMessageId : Nat
  recvMessageId : Nat
  expireTimer : Option Nat
  negotiated : Option IkeSuite
  localAddr : Endpoint
  remoteAddr : Endpoint
  rmIndex : Option Bytes
  key : KeySlot → Option Bytes
  children : List ResumeChild
  childCreated : Nat
  response : ResponseInfo
  dueTime : Nat

/-! ## writing -/

/-- `n` octets, the rest of them zero -/
def fill (n : Nat) (b : Bytes) : Bytes := b ++ List.replicate (n - b.length) 0

/-- `snprintf(buf, R2RS_MAXSTR, "%s", s)` into a zeroed buffer -/
def snprintfStr (s : Bytes) : Bytes := fill r2rsMaxstr ((s.takeWhile (· != 0)).take (r2rsMaxstr - 1))

/-- `resume_wall_expire` -/
def resumeWallExpire (now : Nat) (timer : Option Nat) (fallback : Nat) : Nat :=
  match timer with
  | none => (now + fallback) % 2^32
  | some remaining => (now + max 1 remaining) % 2^32

/-- `r2rs_key_from_vchar`; `none`: it refuses -/
def keyFromVchar : Option Bytes → Option R2rsKey
  | none => some ⟨0, fill r2rsMaxkey []⟩
  | some v => if r2rsMaxkey < v.length then none else some ⟨v.length, fill r2rsMaxkey v⟩

/-- `r2rs_sa_to_wire` -/
def saToWire (e : Endpoint) : R2rsAddr :=
  ⟨e.family.code, e.port, fill 16 (e.addr.take e.family.size)⟩

def ResumeChild.inSpi (c : ResumeChild) : Nat := propSpiHost c.myProposal

def ResumeChild.outSpi (c : ResumeChild) : Nat := propSpiHost c.peerProposal

/-- the children that both loops of `ikev2_resume_save` count -/
def ResumeChild.dumped (c : ResumeChild) : Bool := c.mature && c.inSpi != 0 && c.outSpi != 0

/-- the link of a pending child, where it fits -/
def ResumeChild.linkSaved (c : ResumeChild) : Bytes :=
  match c.addkeLink with
  | none => []
  | some link => if c.addkePending && link.length ≤ r2rsMaxstr then link else []

/-- one child of the dump -/
def saveChild (now : Nat) (c : ResumeChild) : R2rsChild where
  inSpi := c.inSpi
  outSpi := c.outSpi
  expireAt := resumeWallExpire now c.timer 3600
  satype := proposalEsp
  leaseAf := match c.leases with
    | [] => 0
    | a :: _ => a.family.code
  leaseAddr := match c.leases with
    | [] => fill 16 []
    | a :: _ => fill 16 a.addr
  slIndex := match c.selector with
    | none => fill r2rsMaxstr []
    | some index => snprintfStr index
  suite := match c.myProposal with
    | [] => .empty
    | p :: _ => suiteFromProp p
  isInitiator := c.isInitiator.toNat
  addkePending := c.addkePending.toNat
  addkeLinkLen := c.linkSaved.length
  addkeMethod := c.addkeMethod % 2^16
  addkeLink := fill r2rsMaxstr c.linkSaved

/-- the fields of the response in the record -/
structure RespSaved where
  len : Nat
  nfrags : Nat
  fragLen : List Nat
  buf : Bytes
  deriving DecidableEq, Repr

/-- the loop over the fragments: their lengths and octets, and whether it reached the end -/
def copyFrags : List (Option Bytes) → List Nat × Bytes × Bool
  | [] => ([], [], true)
  | none :: _ => ([], [], false)
  | some d :: fs =>
    if d.length = 0 ∨ r2rsMaxfrag < d.length then ([], [], false)
    else (d.length :: (copyFrags fs).1, d ++ (copyFrags fs).2.1, (copyFrags fs).2.2)

def fragTotal (fs : List (Option Bytes)) : Nat := (fs.map fun f => (f.getD []).length).sum

/-- the response: a whole packet or the list of its fragments -/
def saveResponse (r : ResponseInfo) : RespSaved :=
  match r.packet, r.frags with
  | some p, none =>
    if 0 < p.length ∧ p.length ≤ r2rsMaxresp then ⟨p.length, 0, [], p⟩ else ⟨0, 0, [], []⟩
  | none, some fs =>
    if 0 < fs.length ∧ fs.length ≤ r2rsMaxfrags ∧ fragTotal fs < r2rsMaxresp then
      ⟨0, if (copyFrags fs).2.2 then fs.length else 0, (copyFrags fs).1, (copyFrags fs).2.1⟩
    else ⟨0, 0, [], []⟩
  | _, _ => ⟨0, 0, [], []⟩

/-- an array of the record, filled from its start -/
def arrayOf {α : Type} (n : Nat) (zero : α) (xs : List α) : Fin n → α := fun i => xs.getD i.1 zero

/-- the record that `ikev2_resume_save` fills in -/
def savedRecord (now : Nat) (sa : ResumeSa) (nsa : IkeSuite) : R2rsSa where
  magic := r2rsMagic
  version := r2rsVersion
  iCk := sa.iCk
  rCk := sa.rCk
  isInitiator := sa.isInitiator.toNat
  mobike := sa.mobike.toNat
  frag := sa.frag.toNat
  behindNat := sa.behindNat.toNat
  peerBehindNat := sa.peerBehindNat.toNat
  sendMessageId := sa.sendMessageId
  recvMessageId := sa.recvMessageId
  ikeExpireAt := resumeWallExpire now sa.expireTimer 86400
  suite := nsa
  localAddr := saToWire sa.localAddr
  remoteAddr := saToWire sa.remoteAddr
  rmIndex := match sa.rmIndex with
    | none => fill r2rsMaxstr []
    | some index => snprintfStr index
  key := fun k => (keyFromVchar (sa.key k)).getD ⟨0, []⟩
  nchild := (sa.children.filter ResumeChild.dumped).length
  child := arrayOf _ .zero ((sa.children.filter ResumeChild.dumped).map (saveChild now))
  respMsgid := sa.response.messageId
  respLen := (saveResponse sa.response).len
  respNfrags := (saveResponse sa.response).nfrags
  respFragLen := arrayOf _ 0 (saveResponse sa.response).fragLen
  respBuf := fill r2rsMaxresp (saveResponse sa.response).buf
  certDue := sa.dueTime

/-- `ikev2_resume_save` up to the file; `none`: nothing is written -/
def resumeSave (now : Nat) (sa : ResumeSa) : Option R2rsSa :=
  match sa.negotiated with
  | none => none
  | some nsa =>
    if sa.established = false ∨ [KeySlot.skD, .skEi, .skEr].any fun k => (sa.key k).isNone then none
    else if KeySlot.all.any fun k => (keyFromVchar (sa.key k)).isNone then none
    else if r2rsMaxchild < (sa.children.filter ResumeChild.dumped).length then none
    else some (savedRecord now sa nsa)

/-! ## reading -/

/-- what `restore_one` asks of the configuration, the kernel and the clock -/
structure ResumeEnv where
  now : Nat
  remoteKnown : Bytes → Bool
  selectorKnown : Bytes → Bool
  lifetime : Bytes → Nat
  dhKnown : Nat → Bool
  deprecatedRefused : IkeSuite → Bool
  setNegotiatedSa : IkeSuite → Bool
  addrpoolAssign : Bytes → Family → Bytes → Bool
  kernelLost : Bool
  kernelEspAbsent : Endpoint → Nat → Bool

/-- a string in an array of the record -/
def cString (b : Bytes) : Bytes := b.takeWhile (· != 0)

/-- `r2rs_key_to_vchar` -/
def keyToVchar (k : R2rsKey) : Option Bytes :=
  if k.len = 0 ∨ r2rsMaxkey < k.len then none else some (k.data.take k.len)

/-- `r2rs_wire_to_sa` -/
def wireToSa (a : R2rsAddr) : Option Endpoint :=
  (familyOf a.family).map fun f => ⟨f, a.addr.take f.size, 0, a.port⟩

/-- `resume_remain_from_dump`; a time below the floor is no unix time -/
def resumeRemainFromDump (expireAt now fallback : Nat) : Nat :=
  if expireAt < 1000000000 then fallback else max 1 (expireAt - now)

/-- the datagrams one behind the other in a buffer -/
def cutFrags : List Nat → Bytes → List Bytes
  | [], _ => []
  | n :: ns, buf => buf.take n :: cutFrags ns (buf.drop n)

/-- the response that `restore_one` arms -/
def restoreResponse (rec : R2rsSa) (ends : Endpoint × Endpoint) : ResponseInfo :=
  if 4 ≤ rec.version ∧ 0 < rec.respLen ∧ rec.respLen ≤ r2rsMaxresp then
    ⟨rec.respMsgid, some (rec.respBuf.take rec.respLen), none, some ends⟩
  else if r2rsVersion ≤ rec.version ∧ 0 < rec.respNfrags ∧ rec.respNfrags ≤ r2rsMaxfrags then
    if (rec.fragLens.all fun n => n != 0 && n ≤ r2rsMaxfrag) && rec.fragLens.sum ≤ r2rsMaxresp then
      ⟨rec.respMsgid, none, some ((cutFrags rec.fragLens rec.respBuf).map some), some ends⟩
    else .empty
  else .empty

/-- the proposal that is rebuilt for a child -/
def restoreProposal (c : R2rsChild) : PropPair :=
  let p := spiProp proposalEsp c.inSpi
  if c.suite.encrId = 0 then p
  else
    let p := propAddTrns p transformEncr c.suite.encrId c.suite.encrKlen
    let p := if c.suite.integrId = 0 then p else propAddTrns p transformIntegr c.suite.integrId 0
    propAddTrns p transformEsn (if c.suite.esn = 0 then 0 else 1) 0

/-- one child of the record -/
def restoreChild (env : ResumeEnv) (rmIndex : Bytes) (here : Endpoint) (c : R2rsChild) :
    Option ResumeChild :=
  if byteAt c.slIndex 0 = 0 then none
  else if env.selectorKnown (cString c.slIndex) = false then none
  else some {
    mature := true
    isInitiator := c.isInitiator != 0
    myProposal := [restoreProposal c]
    peerProposal := [spiProp proposalEsp c.outSpi]
    timer :=
      if env.kernelLost || env.kernelEspAbsent here c.inSpi then some 1
      else some (resumeRemainFromDump c.expireAt env.now 3600)
    addkePending := false
    addkeMethod := 0
    addkeLink := none
    selector := some (cString c.slIndex)
    leases := match familyOf c.leaseAf with
      | none => []
      | some f => if env.addrpoolAssign rmIndex f c.leaseAddr then [⟨f, c.leaseAddr⟩] else [] }

/-- the loop over the children; those that wait for a followup are skipped -/
def restoreChildren (env : ResumeEnv) (rmIndex : Bytes) (here : Endpoint) :
    List R2rsChild → Option (List ResumeChild)
  | [] => some []
  | c :: cs =>
    if c.addkePending ≠ 0 then restoreChildren env rmIndex here cs
    else match restoreChild env rmIndex here c with
      | none => none
      | some ch => (restoreChildren env rmIndex here cs).map (ch :: ·)

/-- the suite as it is looked up again -/
def restoreSuite (env : ResumeEnv) (s : IkeSuite) : IkeSuite :=
  { s with dhId := if env.dhKnown s.dhId then s.dhId else 0 }

/-- the SA that `restore_one` fills in -/
def restoredSa (env : ResumeEnv) (rec : R2rsSa) (here there : Endpoint)
    (children : List ResumeChild) : ResumeSa where
  established := true
  iCk := rec.iCk
  rCk := rec.rCk
  isInitiator := rec.isInitiator != 0
  mobike := rec.mobike != 0
  frag := rec.frag != 0
  behindNat := rec.behindNat != 0
  peerBehindNat := rec.peerBehindNat != 0
  sendMessageId := rec.sendMessageId
  recvMessageId := rec.recvMessageId
  expireTimer := some (resumeRemainFromDump rec.ikeExpireAt env.now
    (env.lifetime (cString rec.rmIndex)))
  negotiated := some (restoreSuite env rec.suite)
  localAddr := here
  remoteAddr := there
  rmIndex := some (cString rec.rmIndex)
  key := fun k => keyToVchar (rec.key k)
  children := children
  childCreated := rec.nchild
  response := restoreResponse rec (here, there)
  dueTime := rec.certDue

/-- `restore_one` on the record it read -/
def restoreRecord (env : ResumeEnv) (rec : R2rsSa) : Option ResumeSa :=
  if r2rsValidate rec = false then none
  else if env.remoteKnown (cString rec.rmIndex) = false then none
  else match wireToSa rec.localAddr, wireToSa rec.remoteAddr with
    | some here, some there =>
      if env.deprecatedRefused (restoreSuite env rec.suite) = true then none
      else if env.setNegotiatedSa (restoreSuite env rec.suite) = false then none
      else if [KeySlot.skD, .skEi, .skEr].any fun k => (keyToVchar (rec.key k)).isNone then none
      else (restoreChildren env (cString rec.rmIndex) here rec.children).map
        (restoredSa env rec here there)
    | _, _ => none

/-! ## what the record holds -/

/-- a response that is ready to be sent again -/
inductive Armed where
  | packet (data : Bytes)
  | frags (data : List (Option Bytes))
  deriving DecidableEq, Repr

/-- the armed response with its message ID -/
def ResponseInfo.armed (r : ResponseInfo) : Option (Nat × Armed) :=
  match r.packet, r.frags with
  | some p, _ => some (r.messageId, .packet p)
  | none, some (f :: fs) => some (r.messageId, .frags (f :: fs))
  | _, _ => none

/-- the response in a record: version 4 added the packet, version 5 the fragments -/
def R2rsSa.response (rec : R2rsSa) : Option (Nat × Armed) :=
  if 4 ≤ rec.version ∧ 0 < rec.respLen then
    some (rec.respMsgid, .packet (rec.respBuf.take rec.respLen))
  else if 5 ≤ rec.version ∧ 0 < rec.respNfrags then
    some (rec.respMsgid, .frags ((cutFrags rec.fragLens rec.respBuf).map some))
  else none

/-- a fragment that fits in the record -/
def fragFits (f : Option Bytes) : Bool := f.any fun d => d.length != 0 && d.length ≤ r2rsMaxfrag

/-- the part of the armed response that a record has room for -/
def ResponseInfo.persisted (r : ResponseInfo) : Option (Nat × Armed) :=
  match r.packet, r.frags with
  | some p, none =>
    if 0 < p.length ∧ p.length ≤ r2rsMaxresp then some (r.messageId, .packet p) else none
  | none, some fs =>
    if (0 < fs.length ∧ fs.length ≤ r2rsMaxfrags ∧ fragTotal fs < r2rsMaxresp)
        ∧ fs.all fragFits = true then
      some (r.messageId, .frags fs)
    else none
  | _, _ => none

/-- the key in a record -/
def R2rsKey.value (k : R2rsKey) : Option Bytes := if k.len = 0 then none else some (k.data.take k.len)

/-- an endpoint is the one in the record -/
def R2rsAddr.Names (a : R2rsAddr) (e : Endpoint) : Prop :=
  a.family = e.family.code ∧ a.port = e.port ∧ a.addr.take e.family.size = e.addr

/-- the SA has the window, the keys, the endpoints and the response of the record -/
structure R2rsSa.Carried (rec : R2rsSa) (sa : ResumeSa) : Prop where
  sendMessageId : sa.sendMessageId = rec.sendMessageId
  recvMessageId : sa.recvMessageId = rec.recvMessageId
  key : ∀ k, sa.key k = (rec.key k).value
  localAddr : rec.localAddr.Names sa.localAddr
  remoteAddr : rec.remoteAddr.Names sa.remoteAddr
  response : sa.response.armed = rec.response

/-- a record that comes back with what it holds -/
structure Restorable (env : ResumeEnv) (rec : R2rsSa) : Prop where
  remote : env.remoteKnown (cString rec.rmIndex) = true
  families : (familyOf rec.localAddr.family).isSome = true
    ∧ (familyOf rec.remoteAddr.family).isSome = true
  suite : env.deprecatedRefused (restoreSuite env rec.suite) = false
    ∧ env.setNegotiatedSa (restoreSuite env rec.suite) = true
  keys : ∀ k ∈ [KeySlot.skD, .skEi, .skEr], (rec.key k).len ≠ 0
  selectors : ∀ c ∈ rec.children, c.addkePending = 0 →
    byteAt c.slIndex 0 ≠ 0 ∧ env.selectorKnown (cString c.slIndex) = true
  response : rec.respNfrags = 0 ∨ rec.version < 5 ∨ 0 < rec.respLen
    ∨ rec.version = r2rsVersion ∧ ∀ n ∈ rec.fragLens, n ≠ 0

section
variable {env : ResumeEnv} {rec : R2rsSa} {sa : ResumeSa}

theorem familyOf_some {code : Nat} {f : Family} (h : familyOf code = some f) : code = f.code := by
  unfold familyOf at h
  split at h
  · cases h
    assumption
  · split at h
    · cases h
      assumption
    · cases h

theorem r2rsValidate_iff : r2rsValidate rec = true ↔
    (rec.magic = r2rsMagic ∧ rec.version ≤ r2rsVersion ∧ 3 ≤ rec.version)
    ∧ (rec.respLen ≤ r2rsMaxresp ∧ rec.respNfrags ≤ r2rsMaxfrags
      ∧ (rec.version < r2rsVersion ∨ respValid rec = true))
    ∧ rec.nchild ≤ r2rsMaxchild
    ∧ (∀ k ∈ KeySlot.all, (rec.key k).len ≤ r2rsMaxkey)
    ∧ (∀ c ∈ rec.children, childValid c = true)
    ∧ 0 ∈ rec.rmIndex := by
  unfold r2rsValidate
  simp only [Bool.and_eq_true, beq_iff_eq, decide_eq_true_eq, Bool.or_eq_true, List.all_eq_true,
    List.contains_iff_mem]
  tauto

/-! ## the response comes back -/

theorem fragLens_length (h : rec.respNfrags ≤ r2rsMaxfrags) : rec.fragLens.length = rec.respNfrags := by
  unfold R2rsSa.fragLens
  rw [List.length_take, List.length_ofFn]
  exact Nat.min_eq_left h

theorem cutFrags_length (ns : List Nat) (buf : Bytes) : (cutFrags ns buf).length = ns.length := by
  induction ns generalizing buf with
  | nil => rfl
  | cons n ns ih =>
    unfold cutFrags
    rw [List.length_cons, List.length_cons, ih]

theorem armed_frags {fs : List (Option Bytes)} {mid : Nat} {ends : Option (Endpoint × Endpoint)}
    (h : 0 < fs.length) :
    (ResponseInfo.mk mid none (some fs) ends).armed = some (mid, .frags fs) := by
  cases fs with
  | nil => exact absurd h (Nat.lt_irrefl 0)
  | cons f fs => rfl

/-- the fragments of a record: only version 6 looks at them, and each must have octets -/
theorem restoreFrags_iff (hv : r2rsValidate rec = true) (hnopacket : ¬ 0 < rec.respLen)
    (hfive : 5 ≤ rec.version) (hfrags : 0 < rec.respNfrags) (ends : Endpoint × Endpoint) :
    (restoreResponse rec ends).armed
        = some (rec.respMsgid, .frags ((cutFrags rec.fragLens rec.respBuf).map some)) ↔
      rec.version = r2rsVersion ∧ ∀ n ∈ rec.fragLens, n ≠ 0 := by
  obtain ⟨⟨_, hmax, _⟩, ⟨_, hnfrags, hform⟩, _⟩ := r2rsValidate_iff.mp hv
  unfold restoreResponse
  rw [if_neg (fun h => hnopacket h.2.1)]
  by_cases hsix : r2rsVersion ≤ rec.version
  · have hvalid := hform.resolve_left (by omega)
    unfold respValid at hvalid
    simp only [Bool.and_eq_true, List.all_eq_true, decide_eq_true_eq] at hvalid
    have hall : ((rec.fragLens.all fun n => n != 0 && n ≤ r2rsMaxfrag)
        && rec.fragLens.sum ≤ r2rsMaxresp) = true ↔ ∀ n ∈ rec.fragLens, n ≠ 0 := by
      simp only [Bool.and_eq_true, List.all_eq_true, bne_iff_ne, decide_eq_true_eq]
      exact ⟨fun h n hn => (h.1 n hn).1,
        fun h => ⟨fun n hn => ⟨h n hn, hvalid.1.2 n hn⟩, hvalid.2⟩⟩
    rw [if_pos ⟨hsix, hfrags, hnfrags⟩]
    by_cases hzero : ∀ n ∈ rec.fragLens, n ≠ 0
    · rw [if_pos (hall.mpr hzero), armed_frags]
      · exact ⟨fun _ => ⟨Nat.le_antisymm hmax hsix, hzero⟩, fun _ => rfl⟩
      · rw [List.length_map, cutFrags_length, fragLens_length hnfrags]
        exact hfrags
    · rw [if_neg (fun h => hzero (hall.mp h))]
      exact ⟨fun h => absurd h.symm (Option.some_ne_none _), fun h => absurd h.2 hzero⟩
  · rw [if_neg (fun h => hsix h.1)]
    exact ⟨fun h => absurd h.symm (Option.some_ne_none _),
      fun h => absurd (Nat.le_of_eq h.1.symm) hsix⟩

/-- `restore_one` arms the response of the record, or none that is not there -/
theorem restoreResponse_iff (hv : r2rsValidate rec = true) (ends : Endpoint × Endpoint) :
    (restoreResponse rec ends).armed = rec.response ↔
      (rec.respNfrags = 0 ∨ rec.version < 5 ∨ 0 < rec.respLen
        ∨ rec.version = r2rsVersion ∧ ∀ n ∈ rec.fragLens, n ≠ 0) := by
  obtain ⟨_, ⟨hlen, _⟩, _⟩ := r2rsValidate_iff.mp hv
  unfold R2rsSa.response
  by_cases hpacket : 4 ≤ rec.version ∧ 0 < rec.respLen
  · unfold restoreResponse
    rw [if_pos ⟨hpacket.1, hpacket.2, hlen⟩, if_pos hpacket]
    exact ⟨fun _ => .inr (.inr (.inl hpacket.2)), fun _ => rfl⟩
  rw [if_neg hpacket]
  by_cases hfrags : 5 ≤ rec.version ∧ 0 < rec.respNfrags
  · have hnot : ¬ 0 < rec.respLen := fun h => hpacket ⟨by omega, h⟩
    rw [if_pos hfrags, restoreFrags_iff hv hnot hfrags.1 hfrags.2]
    refine ⟨fun h => .inr (.inr (.inr h)), ?_⟩
    rintro (h | h | h | h)
    · omega
    · omega
    · exact absurd h hnot
    · exact h
  · unfold restoreResponse
    rw [if_neg hfrags, if_neg (fun h => hpacket ⟨h.1, h.2.1⟩),
      if_neg (fun h => hfrags ⟨Nat.le_trans (by decide) h.1, h.2.1⟩)]
    refine ⟨fun _ => ?_, fun _ => rfl⟩
    by_cases hold : rec.version < 5
    · exact .inr (.inl hold)
    · exact .inl (by omega)

/-! ## the SA comes back -/

theorem restoreChild_isSome {rmIndex : Bytes} {here : Endpoint} {c : R2rsChild} :
    (restoreChild env rmIndex here c).isSome = true ↔
      byteAt c.slIndex 0 ≠ 0 ∧ env.selectorKnown (cString c.slIndex) = true := by
  unfold restoreChild
  split
  · rename_i hmissing
    simp [hmissing]
  · rename_i hindex
    split
    · rename_i hunknown
      simp [hunknown]
    · rename_i hknown
      simpa [hindex] using hknown

/-- the loop reaches its end when every child that is not skipped has its selector -/
theorem restoreChildren_isSome {rmIndex : Bytes} {here : Endpoint} (cs : List R2rsChild) :
    (restoreChildren env rmIndex here cs).isSome = true ↔
      ∀ c ∈ cs, c.addkePending = 0 →
        byteAt c.slIndex 0 ≠ 0 ∧ env.selectorKnown (cString c.slIndex) = true := by
  induction cs with
  | nil => simp [restoreChildren]
  | cons c cs ih =>
    unfold restoreChildren
    rw [List.forall_mem_cons, ← ih, ← restoreChild_isSome]
    by_cases hpending : c.addkePending = 0
    · rw [if_neg (not_not.mpr hpending)]
      cases hchild : restoreChild env rmIndex here c with
      | none => simp [hpending]
      | some ch => simp [hpending]
    · rw [if_pos hpending]
      simp [hpending]

theorem wireToSa_isSome {a : R2rsAddr} :
    (wireToSa a).isSome = true ↔ (familyOf a.family).isSome = true := by
  unfold wireToSa
  rw [Option.isSome_map]

theorem wireToSa_names {a : R2rsAddr} {e : Endpoint} (h : wireToSa a = some e) : a.Names e := by
  unfold wireToSa at h
  obtain ⟨f, hf, rfl⟩ := Option.map_eq_some_iff.mp h
  exact ⟨familyOf_some hf, rfl, rfl⟩

theorem keyToVchar_value {k : R2rsKey} (h : k.len ≤ r2rsMaxkey) : keyToVchar k = k.value := by
  unfold keyToVchar R2rsKey.value
  by_cases hzero : k.len = 0
  · rw [if_pos (.inl hzero), if_pos hzero]
  · rw [if_neg (fun hor => hor.elim hzero (Nat.not_lt.mpr h)), if_neg hzero]

theorem keyToVchar_isNone {k : R2rsKey} (h : k.len ≤ r2rsMaxkey) :
    (keyToVchar k).isNone = true ↔ k.len = 0 := by
  rw [keyToVchar_value h]
  unfold R2rsKey.value
  split
  · rename_i hzero
    simp [hzero]
  · rename_i hlen
    simp [hlen]

theorem KeySlot.mem_all (k : KeySlot) : k ∈ KeySlot.all := by
  cases k <;> decide

/-- how far `restore_one` comes with a record that it accepts -/
theorem restoreRecord_eq_some (hv : r2rsValidate rec = true) : restoreRecord env rec = some sa ↔
    env.remoteKnown (cString rec.rmIndex) = true
    ∧ (∀ k ∈ [KeySlot.skD, .skEi, .skEr], (rec.key k).len ≠ 0)
    ∧ (env.deprecatedRefused (restoreSuite env rec.suite) = false
      ∧ env.setNegotiatedSa (restoreSuite env rec.suite) = true)
    ∧ ∃ here there children, wireToSa rec.localAddr = some here
      ∧ wireToSa rec.remoteAddr = some there
      ∧ restoreChildren env (cString rec.rmIndex) here rec.children = some children
      ∧ restoredSa env rec here there children = sa := by
  have hkeys : ([KeySlot.skD, .skEi, .skEr].any fun k => (keyToVchar (rec.key k)).isNone) = false ↔
      ∀ k ∈ [KeySlot.skD, .skEi, .skEr], (rec.key k).len ≠ 0 := by
    obtain ⟨_, _, _, hcaps, _⟩ := r2rsValidate_iff.mp hv
    rw [List.any_eq_false]
    refine forall₂_congr fun k hk => not_congr ?_
    exact keyToVchar_isNone (hcaps k (KeySlot.mem_all k))
  rw [← hkeys]
  unfold restoreRecord
  rw [if_neg (by simp [hv])]
  cases hremote : env.remoteKnown (cString rec.rmIndex) with
  | false => simp
  | true =>
    rw [if_neg (by simp)]
    cases hlocal : wireToSa rec.localAddr with
    | none => simp
    | some here =>
      cases hthere : wireToSa rec.remoteAddr with
      | none => simp
      | some there =>
        cases hdep : env.deprecatedRefused (restoreSuite env rec.suite) with
        | true => simp
        | false =>
          cases hset : env.setNegotiatedSa (restoreSuite env rec.suite) with
          | false => simp
          | true =>
            cases hany : ([KeySlot.skD, .skEi, .skEr].any fun k =>
                (keyToVchar (rec.key k)).isNone) with
            | true => simp
            | false => simp [Option.map_eq_some_iff]

theorem restoredSa_carried (hv : r2rsValidate rec = true) {here there : Endpoint}
    {children : List ResumeChild} (hhere : wireToSa rec.localAddr = some here)
    (hthere : wireToSa rec.remoteAddr = some there) :
    rec.Carried (restoredSa env rec here there children) ↔
      (restoreResponse rec (here, there)).armed = rec.response := by
  obtain ⟨_, _, _, hcaps, _⟩ := r2rsValidate_iff.mp hv
  refine ⟨fun h => h.response, fun h => ⟨rfl, rfl, fun k => ?_, ?_, ?_, h⟩⟩
  · exact keyToVchar_value (hcaps k (KeySlot.mem_all k))
  · exact wireToSa_names hhere
  · exact wireToSa_names hthere

/-- which records come back with what they hold -/
theorem restore_iff (hv : r2rsValidate rec = true) :
    (∃ sa, restoreRecord env rec = some sa ∧ rec.Carried sa) ↔ Restorable env rec := by
  constructor
  · rintro ⟨sa, hsome, hcarried⟩
    obtain ⟨hremote, hkeys, hsuite, here, there, children, hhere, hthere, hchildren, rfl⟩ :=
      (restoreRecord_eq_some hv).mp hsome
    refine ⟨hremote, ⟨?_, ?_⟩, hsuite, hkeys, ?_, ?_⟩
    · rw [← wireToSa_isSome, hhere]
      rfl
    · rw [← wireToSa_isSome, hthere]
      rfl
    · apply (restoreChildren_isSome rec.children).mp
      rw [hchildren]
      rfl
    · rw [← restoreResponse_iff hv (here, there)]
      exact (restoredSa_carried hv hhere hthere).mp hcarried
  · intro h
    obtain ⟨here, hhere⟩ := Option.isSome_iff_exists.mp (wireToSa_isSome.mpr h.families.1)
    obtain ⟨there, hthere⟩ := Option.isSome_iff_exists.mp (wireToSa_isSome.mpr h.families.2)
    have hloop : (restoreChildren env (cString rec.rmIndex) here rec.children).isSome = true :=
      (restoreChildren_isSome rec.children).mpr h.selectors
    obtain ⟨children, hchildren⟩ := Option.isSome_iff_exists.mp hloop
    refine ⟨restoredSa env rec here there children, ?_, ?_⟩
    · rw [restoreRecord_eq_some hv]
      exact ⟨h.remote, h.keys, h.suite, here, there, children, hhere, hthere, hchildren, rfl⟩
    · rw [restoredSa_carried hv hhere hthere, restoreResponse_iff hv]
      exact h.response

end

/-! ## what is dumped -/

section
variable {now : Nat} {sa : ResumeSa} {rec : R2rsSa}

theorem arrayOf_take {α : Type} {n : Nat} (zero : α) {xs : List α} (h : xs.length ≤ n) :
    (List.ofFn (arrayOf n zero xs)).take xs.length = xs := by
  apply List.ext_getElem
  · rw [List.length_take, List.length_ofFn]
    exact Nat.min_eq_left h
  · intro i hi hx
    rw [List.getElem_take, List.getElem_ofFn]
    show xs.getD i zero = xs[i]
    rw [List.getD_eq_getElem?_getD, List.getElem?_eq_getElem hx, Option.getD_some]

theorem fill_take {n : Nat} (b : Bytes) : (fill n b).take b.length = b := List.take_left

theorem resumeSave_eq_some (h : resumeSave now sa = some rec) :
    (∃ nsa, rec = savedRecord now sa nsa)
    ∧ (∀ k, (keyFromVchar (sa.key k)).isSome = true)
    ∧ (sa.children.filter ResumeChild.dumped).length ≤ r2rsMaxchild := by
  unfold resumeSave at h
  split at h
  · cases h
  · rename_i nsa hnsa
    split at h
    · cases h
    · split at h
      · cases h
      · rename_i hkeys
        split at h
        · cases h
        · rename_i hcount
          refine ⟨⟨nsa, (Option.some.inj h).symm⟩, fun k => ?_, Nat.not_lt.mp hcount⟩
          rw [Bool.not_eq_true, List.any_eq_false] at hkeys
          simpa [Option.isSome_iff_ne_none] using hkeys k (KeySlot.mem_all k)

theorem savedRecord_children (nsa : IkeSuite)
    (h : (sa.children.filter ResumeChild.dumped).length ≤ r2rsMaxchild) :
    (savedRecord now sa nsa).children
      = (sa.children.filter ResumeChild.dumped).map (saveChild now) := by
  have hlen : ((sa.children.filter ResumeChild.dumped).map (saveChild now)).length
      = (sa.children.filter ResumeChild.dumped).length := List.length_map _
  unfold R2rsSa.children
  show (List.ofFn (arrayOf _ _ _)).take (sa.children.filter ResumeChild.dumped).length = _
  rw [← hlen]
  exact arrayOf_take _ (by rw [hlen]; exact h)

/-! ## the response in a dump -/

theorem copyFrags_ok (fs : List (Option Bytes)) : (copyFrags fs).2.2 = fs.all fragFits := by
  induction fs with
  | nil => rfl
  | cons f fs ih =>
    cases f with
    | none => rfl
    | some d =>
      unfold copyFrags
      rw [List.all_cons]
      by_cases hbad : d.length = 0 ∨ r2rsMaxfrag < d.length
      · rw [if_pos hbad]
        have hfits : fragFits (some d) = false := by
          unfold fragFits
          rcases hbad with h | h
          · simp [h]
          · simp [Nat.not_le.mpr h]
        rw [hfits, Bool.false_and]
      · rw [if_neg hbad]
        have hfits : fragFits (some d) = true := by
          unfold fragFits
          have h1 := fun h => hbad (.inl h)
          have h2 := Nat.not_lt.mp fun h => hbad (.inr h)
          simp [h2]
          intro h
          exact h1 (by rw [h]; rfl)
        rw [hfits, Bool.true_and]
        exact ih

/-- the fragments that were copied, all of them within the caps -/
theorem copyFrags_spec {fs : List (Option Bytes)} (h : fs.all fragFits = true) (rest : Bytes) :
    ((cutFrags (copyFrags fs).1 ((copyFrags fs).2.1 ++ rest)).map some = fs
      ∧ (copyFrags fs).1.length = fs.length)
    ∧ (∀ n ∈ (copyFrags fs).1, n ≤ r2rsMaxfrag) ∧ (copyFrags fs).1.sum = fragTotal fs := by
  induction fs with
  | nil => exact ⟨⟨rfl, rfl⟩, by simp [copyFrags], rfl⟩
  | cons f fs ih =>
    rw [List.all_cons, Bool.and_eq_true] at h
    cases f with
    | none => exact absurd h.1 (by decide)
    | some d =>
      have hfits : d ≠ [] ∧ d.length ≤ r2rsMaxfrag := by
        simpa [fragFits] using h.1
      obtain ⟨⟨hcut, hlen⟩, hcaps, hsum⟩ := ih h.2
      have hgood : ¬ (d.length = 0 ∨ r2rsMaxfrag < d.length) := by
        rintro (hzero | hbig)
        · exact hfits.1 (List.length_eq_zero_iff.mp hzero)
        · exact absurd hbig (Nat.not_lt.mpr hfits.2)
      unfold copyFrags
      rw [if_neg hgood]
      refine ⟨⟨?_, ?_⟩, ?_, ?_⟩
      · show (cutFrags (d.length :: _) (d ++ _ ++ rest)).map some = _
        unfold cutFrags
        rw [List.append_assoc, List.take_left, List.drop_left, List.map_cons, hcut]
      · show (d.length :: (copyFrags fs).1).length = _
        rw [List.length_cons, List.length_cons, hlen]
      · intro n hn
        rcases List.mem_cons.mp hn with rfl | hn
        · exact hfits.2
        · exact hcaps n hn
      · show (d.length :: (copyFrags fs).1).sum = _
        rw [List.sum_cons, hsum]
        rfl

/-- a packet, a list of fragments, or nothing -/
theorem saveResponse_cases (r : ResponseInfo) :
    (∃ p, (0 < p.length ∧ p.length ≤ r2rsMaxresp) ∧ saveResponse r = ⟨p.length, 0, [], p⟩
      ∧ r.persisted = some (r.messageId, .packet p))
    ∨ (∃ fs, (0 < fs.length ∧ fs.length ≤ r2rsMaxfrags ∧ fragTotal fs < r2rsMaxresp)
      ∧ fs.all fragFits = true
      ∧ saveResponse r = ⟨0, fs.length, (copyFrags fs).1, (copyFrags fs).2.1⟩
      ∧ r.persisted = some (r.messageId, .frags fs))
    ∨ ((saveResponse r).len = 0 ∧ (saveResponse r).nfrags = 0 ∧ r.persisted = none) := by
  unfold saveResponse ResponseInfo.persisted
  cases hp : r.packet with
  | none =>
    cases hf : r.frags with
    | none => exact .inr (.inr ⟨rfl, rfl, rfl⟩)
    | some fs =>
      simp only
      by_cases hroom : 0 < fs.length ∧ fs.length ≤ r2rsMaxfrags ∧ fragTotal fs < r2rsMaxresp
      · rw [if_pos hroom]
        by_cases hfits : fs.all fragFits = true
        · rw [copyFrags_ok, if_pos hfits, if_pos ⟨hroom, hfits⟩]
          exact .inr (.inl ⟨fs, hroom, hfits, rfl, rfl⟩)
        · rw [copyFrags_ok, if_neg hfits, if_neg fun h => hfits h.2]
          exact .inr (.inr ⟨rfl, rfl, rfl⟩)
      · rw [if_neg hroom, if_neg fun h => hroom h.1]
        exact .inr (.inr ⟨rfl, rfl, rfl⟩)
  | some p =>
    cases hf : r.frags with
    | none =>
      simp only
      by_cases hroom : 0 < p.length ∧ p.length ≤ r2rsMaxresp
      · rw [if_pos hroom, if_pos hroom]
        exact .inl ⟨p, hroom, rfl, rfl⟩
      · rw [if_neg hroom, if_neg hroom]
        exact .inr (.inr ⟨rfl, rfl, rfl⟩)
    | some fs => exact .inr (.inr ⟨rfl, rfl, rfl⟩)

/-- the response of a dump passes its check and is the one that was armed -/
theorem savedRecord_response (nsa : IkeSuite) :
    (savedRecord now sa nsa).respLen ≤ r2rsMaxresp
    ∧ (savedRecord now sa nsa).respNfrags ≤ r2rsMaxfrags
    ∧ respValid (savedRecord now sa nsa) = true
    ∧ (savedRecord now sa nsa).response = sa.response.persisted := by
  have hrec : ∀ q, saveResponse sa.response = q →
      (savedRecord now sa nsa).respLen = q.len ∧ (savedRecord now sa nsa).respNfrags = q.nfrags
      ∧ (savedRecord now sa nsa).fragLens = (List.ofFn (arrayOf r2rsMaxfrags 0 q.fragLen)).take q.nfrags
      ∧ (savedRecord now sa nsa).respBuf = fill r2rsMaxresp q.buf := by
    rintro q rfl
    exact ⟨rfl, rfl, rfl, rfl⟩
  unfold respValid R2rsSa.response
  rcases saveResponse_cases sa.response with ⟨p, hroom, hsaved, hpersisted⟩
    | ⟨fs, hroom, hfits, hsaved, hpersisted⟩ | ⟨hlen, hnfrags, hpersisted⟩
  · obtain ⟨hl, hn, hlens, hbuf⟩ := hrec _ hsaved
    have hnone : (savedRecord now sa nsa).fragLens = [] := hlens
    rw [hl, hn, hnone, hbuf, hpersisted]
    refine ⟨hroom.2, Nat.zero_le _, by simp, ?_⟩
    rw [if_pos ⟨by show 4 ≤ r2rsVersion; decide, hroom.1⟩]
    show some (sa.response.messageId, Armed.packet ((fill r2rsMaxresp p).take p.length)) = _
    rw [fill_take]
  · obtain ⟨hl, hn, hlens, hbuf⟩ := hrec _ hsaved
    obtain ⟨⟨hcut, hcount⟩, hcaps, hsum⟩ := copyFrags_spec hfits
      (List.replicate (r2rsMaxresp - (copyFrags fs).2.1.length) 0)
    have hfrags : (savedRecord now sa nsa).fragLens = (copyFrags fs).1 := by
      rw [hlens]
      show (List.ofFn (arrayOf r2rsMaxfrags 0 (copyFrags fs).1)).take fs.length = _
      rw [← hcount]
      exact arrayOf_take 0 (by rw [hcount]; exact hroom.2.1)
    rw [hl, hn, hfrags, hbuf, hpersisted, hsum]
    refine ⟨Nat.zero_le _, hroom.2.1, ?_, ?_⟩
    · have hall : (copyFrags fs).1.all (· ≤ r2rsMaxfrag) = true := by
        rw [List.all_eq_true]
        intro n hn
        exact decide_eq_true (hcaps n hn)
      rw [hall]
      simp [Nat.le_of_lt hroom.2.2]
    · rw [if_neg fun h => Nat.lt_irrefl 0 h.2, if_pos ⟨by show 5 ≤ r2rsVersion; decide, hroom.1⟩]
      show some (sa.response.messageId, Armed.frags
        ((cutFrags (copyFrags fs).1 (fill r2rsMaxresp (copyFrags fs).2.1)).map some)) = _
      unfold fill
      rw [hcut]
  · obtain ⟨hl, hn, hlens, hbuf⟩ := hrec _ rfl
    have hnone : (savedRecord now sa nsa).fragLens = [] := by
      rw [hlens, hnfrags]
      rfl
    rw [hl, hn, hnone, hlen, hnfrags, hpersisted]
    exact ⟨Nat.zero_le _, Nat.zero_le _, by simp, rfl⟩

/-! ## the check of a dump -/

theorem keyFromVchar_len {v : Option Bytes} {key : R2rsKey} (h : keyFromVchar v = some key) :
    key.len ≤ r2rsMaxkey := by
  unfold keyFromVchar at h
  split at h
  · rw [← Option.some.inj h]
    exact Nat.zero_le _
  · split at h
    · cases h
    · rename_i hlen
      rw [← Option.some.inj h]
      exact Nat.not_lt.mp hlen

/-- a child that waits for its followup has a method, and a link that fits in the record -/
def ResumeChild.LinkFits (c : ResumeChild) : Prop :=
  c.addkePending = true → c.addkeMethod % 2^16 ≠ 0
    ∧ ∃ link, c.addkeLink = some link ∧ 0 < link.length ∧ link.length ≤ r2rsMaxstr

theorem fill_mem_zero {n : Nat} {b : Bytes} (h : b.length < n) : (0 : UInt8) ∈ fill n b := by
  unfold fill
  apply List.mem_append_right
  rw [List.mem_replicate]
  exact ⟨by omega, rfl⟩

theorem snprintfStr_mem_zero (s : Bytes) : (0 : UInt8) ∈ snprintfStr s := by
  apply fill_mem_zero
  have h := List.length_take_le (r2rsMaxstr - 1) (s.takeWhile (· != 0))
  exact Nat.lt_of_le_of_lt h (by decide)

/-- a name in an array of the record is terminated -/
theorem name_terminated (name : Option Bytes) : (0 : UInt8) ∈ (match name with
    | none => fill r2rsMaxstr []
    | some index => snprintfStr index) := by
  cases name with
  | none => exact fill_mem_zero (by decide)
  | some index => exact snprintfStr_mem_zero index

theorem linkSaved_length (c : ResumeChild) : c.linkSaved.length ≤ r2rsMaxstr := by
  unfold ResumeChild.linkSaved
  split
  · exact Nat.zero_le _
  · split
    · rename_i hfits
      simp only [Bool.and_eq_true, decide_eq_true_eq] at hfits
      exact hfits.2
    · exact Nat.zero_le _

theorem linkSaved_pos {c : ResumeChild} (h : c.addkePending = true) : c.linkSaved.length ≠ 0 ↔
    ∃ link, c.addkeLink = some link ∧ 0 < link.length ∧ link.length ≤ r2rsMaxstr := by
  unfold ResumeChild.linkSaved
  rw [h]
  cases c.addkeLink with
  | none => simp
  | some link =>
    by_cases hlen : link.length ≤ r2rsMaxstr
    · simp [hlen, List.length_pos_iff]
    · simp [hlen]

/-- the family of a lease is known -/
theorem saveChild_lease (c : ResumeChild) :
    (saveChild now c).leaseAf = 0 ∨ (familyOf (saveChild now c).leaseAf).isSome = true := by
  cases hleases : c.leases with
  | nil =>
    left
    show (match c.leases with | [] => 0 | a :: _ => a.family.code) = 0
    rw [hleases]
  | cons a as =>
    right
    have haf : (saveChild now c).leaseAf = a.family.code := by
      show (match c.leases with | [] => 0 | a :: _ => a.family.code) = _
      rw [hleases]
    rw [haf]
    cases a.family <;> decide

theorem saveChild_valid {c : ResumeChild} (h : c.dumped = true) :
    childValid (saveChild now c) = true ↔ c.LinkFits := by
  unfold ResumeChild.dumped at h
  simp only [Bool.and_eq_true, bne_iff_ne] at h
  have hname : (0 : UInt8) ∈ (saveChild now c).slIndex := name_terminated c.selector
  have hlink : (saveChild now c).addkeLinkLen ≤ r2rsMaxstr := linkSaved_length c
  have hrole : (saveChild now c).isInitiator ≤ 1 := Bool.toNat_le c.isInitiator
  have hin : (saveChild now c).inSpi ≠ 0 := h.1.2
  have hout : (saveChild now c).outSpi ≠ 0 := h.2
  have hlease : (saveChild now c).leaseAf = 0
      ∨ (familyOf (saveChild now c).leaseAf).isSome = true := saveChild_lease c
  have hpending : (saveChild now c).addkePending ≠ 0 ↔ c.addkePending = true := by
    show c.addkePending.toNat ≠ 0 ↔ _
    cases c.addkePending <;> decide
  have hfits : childValid (saveChild now c) = true ↔ ((saveChild now c).addkePending ≠ 0 →
      (saveChild now c).addkeMethod ≠ 0 ∧ (saveChild now c).addkeLinkLen ≠ 0) := by
    unfold childValid
    simp only [Bool.and_eq_true, bne_iff_ne, beq_iff_eq, Bool.or_eq_true, List.contains_iff_mem,
      decide_eq_true_eq, Bool.not_eq_true', Bool.and_eq_false_iff, Bool.or_eq_false_iff,
      bne_eq_false_iff_eq, beq_eq_false_iff_ne, decide_eq_false_iff_not]
    constructor
    · rintro ⟨⟨⟨_, hor⟩, _⟩, _⟩ hne
      obtain ⟨⟨hmethod, hlen⟩, _⟩ := hor.resolve_left hne
      exact ⟨hmethod, hlen⟩
    · intro himp
      refine ⟨⟨⟨⟨⟨⟨hin, hout⟩, hlease⟩, hname⟩, ?_⟩, hlink⟩, hrole⟩
      by_cases hzero : (saveChild now c).addkePending = 0
      · exact .inl hzero
      · exact .inr ⟨himp hzero, Nat.not_lt.mpr hlink⟩
  rw [hfits, hpending]
  unfold ResumeChild.LinkFits
  refine forall_congr' fun hp => ?_
  rw [← linkSaved_pos hp]
  rfl

/-- which dumps the check lets through -/
theorem save_validates_iff (h : resumeSave now sa = some rec) :
    r2rsValidate rec = true ↔ ∀ c ∈ sa.children, c.dumped = true → c.LinkFits := by
  obtain ⟨⟨nsa, rfl⟩, hkeys, hcount⟩ := resumeSave_eq_some h
  obtain ⟨hlen, hnfrags, hresp, _⟩ := (savedRecord_response nsa :
    (savedRecord now sa nsa).respLen ≤ r2rsMaxresp ∧ _)
  have hcaps : ∀ k ∈ KeySlot.all, ((savedRecord now sa nsa).key k).len ≤ r2rsMaxkey := by
    intro k _
    obtain ⟨key, hkey⟩ := Option.isSome_iff_exists.mp (hkeys k)
    have hk : (savedRecord now sa nsa).key k = key := by
      show (keyFromVchar (sa.key k)).getD ⟨0, []⟩ = key
      rw [hkey]
      rfl
    rw [hk]
    exact keyFromVchar_len hkey
  have hname : (0 : UInt8) ∈ (savedRecord now sa nsa).rmIndex := name_terminated sa.rmIndex
  have hchildren : (∀ c ∈ (savedRecord now sa nsa).children, childValid c = true) ↔
      ∀ c ∈ sa.children, c.dumped = true → c.LinkFits := by
    rw [savedRecord_children nsa hcount, List.forall_mem_map]
    constructor
    · intro hall c hc hdumped
      exact (saveChild_valid hdumped).mp (hall c (List.mem_filter.mpr ⟨hc, hdumped⟩))
    · intro hall c hc
      obtain ⟨hmem, hdumped⟩ := List.mem_filter.mp hc
      exact (saveChild_valid hdumped).mpr (hall c hmem hdumped)
  rw [r2rsValidate_iff, ← hchildren]
  constructor
  · intro hv
    exact hv.2.2.2.2.1
  · intro hall
    exact ⟨⟨rfl, Nat.le_refl _, by show 3 ≤ r2rsVersion; decide⟩, ⟨hlen, hnfrags, .inr hresp⟩, hcount,
      hcaps, hall, hname⟩

/-- the response in a dump is the one that was armed -/
theorem save_response (h : resumeSave now sa = some rec) : rec.response = sa.response.persisted := by
  obtain ⟨⟨nsa, rfl⟩, _⟩ := resumeSave_eq_some h
  exact (savedRecord_response nsa).2.2.2

end

/-- writer, check and reader of a record: a dump passes the check when the link of every child that
waits for its followup fits, it holds the response that was armed, and a record that passes comes
back with what it holds exactly when it is restorable -/
theorem resume_record (now : Nat) (sa : ResumeSa) (env : ResumeEnv) (kept : R2rsSa) :
    (∀ rec, resumeSave now sa = some rec →
      (r2rsValidate rec = true ↔ ∀ c ∈ sa.children, c.dumped = true → c.LinkFits)
      ∧ rec.response = sa.response.persisted)
    ∧ (r2rsValidate kept = true →
      ((∃ sa', restoreRecord env kept = some sa' ∧ kept.Carried sa') ↔ Restorable env kept)) :=
  ⟨fun _ h => ⟨save_validates_iff h, save_response h⟩, restore_iff⟩

/-- an ESP child with the selector `s` -/
def plainChild : ResumeChild where
  mature := true
  isInitiator := false
  myProposal := [spiProp proposalEsp 7]
  peerProposal := [spiProp proposalEsp 8]
  timer := none
  addkePending := false
  addkeMethod := 0
  addkeLink := none
  selector := some [115]
  leases := []

/-- an SA with one child, and an armed response of two fragments -/
def dumpedSa (child : ResumeChild) : ResumeSa where
  established := true
  iCk := [1, 1, 1, 1, 1, 1, 1, 1]
  rCk := [2, 2, 2, 2, 2, 2, 2, 2]
  isInitiator := false
  mobike := false
  frag := true
  behindNat := false
  peerBehindNat := false
  sendMessageId := 4
  recvMessageId := 3
  expireTimer := some 60
  negotiated := some ⟨20, 256, 5, 0, 31⟩
  localAddr := .v4 192 0 2 1 500
  remoteAddr := .v4 192 0 2 2 500
  rmIndex := some [114]
  key := fun _ => some [1, 2, 3]
  children := [child]
  childCreated := 1
  response := ⟨2, none, some [some [7, 8], some [9]], none⟩
  dueTime := 0

/-- a configuration that knows every name and allows every suite -/
def openEnv : ResumeEnv where
  now := 1700000000
  remoteKnown := fun _ => true
  selectorKnown := fun _ => true
  lifetime := fun _ => 28800
  dhKnown := fun _ => true
  deprecatedRefused := fun _ => false
  setNegotiatedSa := fun _ => true
  addrpoolAssign := fun _ _ _ => true
  kernelLost := false
  kernelEspAbsent := fun _ _ => false

def plainDump : R2rsSa := savedRecord 1700000000 (dumpedSa plainChild) ⟨20, 256, 5, 0, 31⟩

theorem plainDump_saved : resumeSave 1700000000 (dumpedSa plainChild) = some plainDump := by
  rfl

theorem plainDump_restorable : Restorable openEnv plainDump where
  remote := rfl
  families := ⟨rfl, rfl⟩
  suite := ⟨rfl, rfl⟩
  keys := by decide
  selectors := by decide
  response := .inr (.inr (.inr ⟨rfl, by decide⟩))

theorem resume_record_plain :
    r2rsValidate plainDump = true
    ∧ plainDump.response = some (2, .frags [some [7, 8], some [9]])
    ∧ ∃ sa, restoreRecord openEnv plainDump = some sa ∧ plainDump.Carried sa := by
  obtain ⟨hsave, hrestore⟩ := resume_record 1700000000 (dumpedSa plainChild) openEnv plainDump
  obtain ⟨hiff, hresponse⟩ := hsave _ plainDump_saved
  have hv : r2rsValidate plainDump = true := by
    rw [hiff]
    intro c hc _ hpending
    rw [List.mem_singleton.mp hc] at hpending
    cases hpending
  exact ⟨hv, hresponse, (hrestore hv).mpr plainDump_restorable⟩

/-- a child that adopted a link of 65 octets from an IKE_FOLLOWUP_KE request -/
def longLinkChild : ResumeChild :=
  { plainChild with addkePending := true, addkeMethod := 36, addkeLink := some (List.replicate 65 1) }

/-- the same dump, written by version 5 -/
def versionFiveDump : R2rsSa := { plainDump with version := 5 }

/-- a dump that its own check refuses, and a version 5 record whose fragments are lost -/
theorem dump_refused_frags_lost :
    (∃ rec, resumeSave 1700000000 (dumpedSa longLinkChild) = some rec ∧ r2rsValidate rec = false)
    ∧ r2rsValidate versionFiveDump = true
    ∧ versionFiveDump.response = some (2, .frags [some [7, 8], some [9]])
    ∧ ∃ sa, restoreRecord openEnv versionFiveDump = some sa ∧ sa.response.armed = none := by
  refine ⟨⟨_, rfl, by decide⟩, by decide, by decide, ⟨_, rfl, by decide⟩⟩

end Ikev2
