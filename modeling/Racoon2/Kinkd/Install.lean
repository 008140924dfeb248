import Racoon2.Lib.Run
import Racoon2.Kinkd.Reply

/-!
# The kernel SAs of a KINK handle

A handle installs SAs with PF_KEY in up to three places: the initiator its inbound SAs when it sends the
CREATE, for its first proposal, and again for the approved proposal when that is another one; the
responder its inbound SAs with the REPLY; both the outbound SAs once they know that the other side is
there. Each `pk_send...` call sends one message for each protocol of a proposal and stops at the first that
fails.

* `getPh2approvalx`   which of the own proposals the responder took;
* `pkSent`, `pkOk`    the messages of a call that were sent, and what it returns;
* `initiate3`, `initiate4`, `reinitiate`, `handleSaReply`   the initiator;
* `handleReply_verdict`                                     its verdict on a REPLY is that of `handleReply`;
* `respond2`, `respondAck`                                  the responder;
* `handleTimeout`     the timers of all states;
* `KinkWorld.step`    what happens to a handle.
-/

set_option linter.unusedVariables false

namespace Kink
open Bytes

/-! ## proposals -/

structure SaTrns where
  trnsNo : Nat
  trnsId : Nat
  encklen : Nat
  authtype : Nat
  deriving DecidableEq, Repr

structure SaProto where
  protoId : Nat
  spisize : Nat
  encmode : Nat
  /-- mine -/
  spi : Nat
  /-- the peer's -/
  spiP : Nat
  trns : List SaTrns
  deriving DecidableEq, Repr

structure SaProp where
  lifetime : Nat
  lifebyte : Nat
  pfsGroup : Nat
  protos : List SaProto
  deriving DecidableEq, Repr

/-- `cmpsatrns` returns 0 -/
def cmpsatrns (tr1 tr2 : SaTrns) : Bool := tr1.trnsId == tr2.trnsId && tr1.authtype == tr2.authtype

/-- the loops over the transforms: the first of the peer's that is one of mine, and whether one of mine
was passed over -/
def matchTrns (mine : List SaTrns) : List SaTrns → Bool → Option (SaTrns × Bool)
  | [], _ => none
  | tr1 :: rest, non1st =>
    match mine.findIdx? (cmpsatrns tr1) with
    | some i => some (tr1, non1st || i != 0)
    | none => matchTrns mine rest (non1st || !mine.isEmpty)

/-- IPSECDOI_PROTO_IPCOMP -/
def protoIpcomp : Nat := 4

def spisizematch (pr1 pr2 : SaProto) : Bool :=
  pr1.spisize == pr2.spisize || pr1.protoId == protoIpcomp && pr1.spisize == 2 && pr2.spisize == 4

/-- the protocols of the peer's proposal against mine, as an initiator compares them -/
def approveProtos (mine : List SaProto) : List SaProto → Bool → Option (List SaProto × Bool)
  | [], non1st => some ([], non1st)
  | pr1 :: rest, non1st =>
    match mine.find? (fun pr2 => pr2.protoId == pr1.protoId) with
    | none => none
    | some pr2 =>
      if !spisizematch pr1 pr2 || pr1.encmode != pr2.encmode then none
      else
        match matchTrns pr2.trns pr1.trns non1st with
        | none => none
        | some (tr1, non1st) =>
          (approveProtos mine rest non1st).map fun (protos, flag) =>
            ({ pr1 with spi := pr2.spi, spiP := pr1.spi, trns := [tr1] } :: protos, flag)

/-- `cmpsaprop_alloc` for an initiator, with RCT_PCT_STRICT -/
def cmpsapropAlloc (pp1 pp2 : SaProp) : Option (SaProp × Bool) :=
  if pp1.lifetime > pp2.lifetime || pp1.lifebyte > pp2.lifebyte then none
  else if pp2.pfsGroup != 0 && pp1.pfsGroup != pp2.pfsGroup then none
  else if pp1.protos.length != pp2.protos.length then none
  else (approveProtos pp2.protos pp1.protos false).map fun (protos, non1st) =>
    ({ pp1 with protos := protos }, non1st)

/-- the first of my proposals from number `n` on that the peer's proposal matches -/
def approvalFrom (q1 : SaProp) : Nat → List SaProp → Option (SaProp × Nat × Bool)
  | _, [] => none
  | n, q2 :: rest =>
    match cmpsapropAlloc q1 q2 with
    | some (pp, non1st) => some (pp, n, non1st)
    | none => approvalFrom q1 (n + 1) rest

/-- `get_ph2approvalx` for an initiator: the approval, `nth_prop` and `non1st_trns` -/
def getPh2approvalx (proposal : List SaProp) (peers : List SaProp) : Option (SaProp × Nat × Bool) :=
  peers.findSome? fun q1 => approvalFrom q1 1 proposal

/-- the first protocol that waits for an SPI of this kind takes it -/
def fillProtos (protoId spi : Nat) : List SaProto → Option (List SaProto)
  | [] => none
  | pr :: rest =>
    if pr.protoId = protoId ∧ pr.spi = 0 then some ({ pr with spi := spi } :: rest)
    else (fillProtos protoId spi rest).map (pr :: ·)

def fillProps (protoId spi : Nat) : List SaProp → Option (List SaProp)
  | [] => none
  | pp :: rest =>
    match fillProtos protoId spi pp.protos with
    | some protos => some ({ pp with protos := protos } :: rest)
    | none => (fillProps protoId spi rest).map (pp :: ·)

/-- `wait_all_spi`, and whether it returns 0 -/
def waitAllSpi (pps : List SaProp) (protoId spi : Nat) : List SaProp × Bool :=
  match fillProps protoId spi pps with
  | none => (pps, false)
  | some pps => (pps, pps.all fun pp => pp.protos.all fun pr => pr.spi != 0)

/-! ## PF_KEY -/

inductive SaDir where
  | inbound
  | outbound
  deriving DecidableEq, Repr

structure KernelSa where
  dir : SaDir
  protoId : Nat
  spi : Nat
  deriving DecidableEq, Repr

def SaProto.sa (dir : SaDir) (pr : SaProto) : KernelSa :=
  ⟨dir, pr.protoId, if dir = .outbound then pr.spiP else pr.spi⟩

/-- the protocols that a `pk_send...` call has sent a message for; the one of number `stop` fails, in the
checks before the message or in sending it -/
def pkSent (stop : Option Nat) : Option SaProp → List SaProto
  | none => []
  | some pp =>
    match stop with
    | none => pp.protos
    | some k => pp.protos.take k

/-- it returns 0; without a proposal it does not -/
def pkOk (stop : Option Nat) : Option SaProp → Bool
  | none => false
  | some pp =>
    match stop with
    | none => true
    | some k => decide (pp.protos.length ≤ k)

/-! ## handles -/

inductive HandleState where
  | none
  | iGetspi
  | iCreate
  | iAging
  | iStale
  | rGetspi
  | rReply
  | rAging
  | rStale
  | iDelete
  | iDeleteHalf
  | rDeleteRecv
  | rDeleteHalf
  | iRekeyed
  deriving DecidableEq, Repr

/-- a handle and its `ph2` -/
structure SaHandle where
  state : HandleState
  initiator : Bool
  /-- my proposals, one `next` of the other -/
  proposal : List SaProp
  approval : Option SaProp
  nthProp : Nat
  non1stTrns : Bool
  retryTktExpired : Bool
  retrySkew : Bool
  retransCount : Nat
  rekeyingStart : Bool
  deriving DecidableEq, Repr

/-- `allocate_handle`, `allocate_ph2` -/
def SaHandle.fresh (initiator : Bool) : SaHandle :=
  ⟨.none, initiator, [], none, 0, false, false, false, 0, false⟩

/-- IS_OPTIMISTIC -/
def SaHandle.isOptimistic (kh : SaHandle) : Bool := kh.nthProp == 1 && !kh.non1stTrns

/-- `ph2->proposal`, the first one -/
def SaHandle.first (kh : SaHandle) : Option SaProp := kh.proposal.head?

/-- a handle, the kernel SAs that it has installed and that are still there, and whether its pair came
into use; no handle once it is released -/
structure KinkWorld where
  kh : Option SaHandle
  sadb : List KernelSa
  inUse : Bool
  deriving DecidableEq, Repr

def KinkWorld.fresh (initiator : Bool) : KinkWorld := ⟨some (.fresh initiator), [], false⟩

section
variable (w : KinkWorld)

/-- `release_ph2`, `release_handle` -/
def releaseHandle : KinkWorld := { w with kh := none }

def keepHandle (kh : SaHandle) : KinkWorld := { w with kh := some kh }

/-- `pk_sendupdate` -/
def pkSendupdate (stop : Option Nat) (pp : Option SaProp) : KinkWorld :=
  { w with sadb := w.sadb ++ (pkSent stop pp).map (SaProto.sa .inbound) }

/-- `pk_sendadd` -/
def pkSendadd (stop : Option Nat) (pp : Option SaProp) : KinkWorld :=
  { w with sadb := w.sadb ++ (pkSent stop pp).map (SaProto.sa .outbound) }

/-- `pk_senddelete` -/
def pkSenddelete (stop : Option Nat) (pp : Option SaProp) (dir : SaDir) : KinkWorld :=
  { w with sadb := w.sadb.filter fun sa => sa ∉ (pkSent stop pp).map (SaProto.sa dir) }

end

/-! ## the initiator -/

/-- what the calls of `initiate3` and `reinitiate` give: the messages and keys before PF_KEY, the update,
the CREATE, and the delete of the labels `fail2` and `fail` -/
structure CreateIo where
  prepared : Bool
  update : Option Nat
  sent : Bool
  delete : Option Nat
  deriving DecidableEq, Repr

/-- what the calls of `initiate4` give. `peers` are the proposals of KINK_ISAKMP, if it is there and
`quick_i2recv` can read it; `abort` is the delete of the label `fail` -/
structure ApprovalIo where
  peers : Option (List SaProp)
  keymat : Bool
  delete : Option Nat
  update : Option Nat
  add : Option Nat
  ackreq : Bool
  abort : Option Nat
  deriving DecidableEq, Repr

/-- the labels `fail` of `initiate4`, `reinitiate`, `timeout_i_create` and `fail2` of `initiate3` -/
def abortCreate (delete : Option Nat) (kh : SaHandle) (w : KinkWorld) : KinkWorld :=
  releaseHandle (pkSenddelete w delete kh.first .inbound)

/-- `initiate3` -/
def initiate3 (io : CreateIo) (kh : SaHandle) (w : KinkWorld) : KinkWorld :=
  if io.prepared = false then releaseHandle w
  else if pkOk io.update kh.first = false then releaseHandle (pkSendupdate w io.update kh.first)
  else if io.sent = false then abortCreate io.delete kh (pkSendupdate w io.update kh.first)
  else keepHandle (pkSendupdate w io.update kh.first) { kh with state := .iCreate }

/-- `initiate4` from the outbound SA on -/
def setOutbound (io : ApprovalIo) (ackreq : Bool) (kh : SaHandle) (w : KinkWorld) : KinkWorld :=
  if pkOk io.add kh.approval = false then abortCreate io.abort kh (pkSendadd w io.add kh.approval)
  else
    keepHandle { pkSendadd w io.add kh.approval with inUse := true }
      { kh with state := if ackreq then .iAging else .iStale }

/-- another proposal than the first was taken: its SAs replace those of the first -/
def replaceFirst (io : ApprovalIo) (kh : SaHandle) (w : KinkWorld) : KinkWorld :=
  let gone := pkSenddelete w io.delete kh.first .inbound
  if pkOk io.delete kh.first = false then abortCreate io.abort kh gone
  else if pkOk io.update kh.approval = false then
    abortCreate io.abort kh (pkSendupdate gone io.update kh.approval)
  else setOutbound io true kh (pkSendupdate gone io.update kh.approval)

/-- another transform of the first proposal was taken: the SAs are updated in place -/
def replaceTransform (io : ApprovalIo) (kh : SaHandle) (w : KinkWorld) : KinkWorld :=
  if pkOk io.update kh.approval = false then
    abortCreate io.abort kh (pkSendupdate w io.update kh.approval)
  else setOutbound io true kh (pkSendupdate w io.update kh.approval)

/-- `initiate4` from the keys on -/
def installApproval (io : ApprovalIo) (kh : SaHandle) (w : KinkWorld) : KinkWorld :=
  if io.keymat = false then abortCreate io.abort kh w
  else if kh.nthProp ≠ 1 then replaceFirst io kh w
  else if kh.non1stTrns then replaceTransform io kh w
  else setOutbound io io.ackreq kh w

/-- the handle with what `quick_i2recv` finds -/
def SaHandle.approve (kh : SaHandle) (found : SaProp × Nat × Bool) : SaHandle :=
  { kh with approval := some found.1, nthProp := found.2.1, non1stTrns := found.2.2 }

/-- `initiate4` for an authenticated REPLY -/
def initiate4Sa (io : ApprovalIo) (kh : SaHandle) (w : KinkWorld) : KinkWorld :=
  match io.peers.bind (getPh2approvalx kh.proposal) with
  | none => abortCreate io.abort kh w
  | some found => installApproval io (kh.approve found) w

/-- `reinitiate` -/
def reinitiate (io : CreateIo) (kh : SaHandle) (w : KinkWorld) : KinkWorld :=
  if io.prepared = false then abortCreate io.delete kh w
  else if pkOk io.update kh.first = false then
    abortCreate io.delete kh (pkSendupdate w io.update kh.first)
  else if io.sent = false then abortCreate io.delete kh (pkSendupdate w io.update kh.first)
  else keepHandle (pkSendupdate w io.update kh.first) { kh with state := .iCreate }

/-- a REPLY: if it decodes, if it has an AP_REP and that and the checksum verify, if KINK_ENCRYPT decodes,
and the errors it carries; an error that cannot be read is `some none` -/
structure SaReply where
  decodes : Bool
  apRep : Option Bool
  encrypt : Bool
  error : Option (Option Nat)
  krbError : Option (Option KrbError)
  deriving DecidableEq, Repr

inductive ReplyVerdict where
  | ignore
  | abort
  | retry (kh : SaHandle)
  | proceed
  deriving DecidableEq, Repr

/-- the label `fail` of `handle_reply`: an unauthenticated error is not believed -/
def SaReply.failed (r : SaReply) : ReplyVerdict := if r.apRep = some true then .abort else .ignore

/-- the result 2 of `handle_krb_error`, which only `state_i_create` can use -/
def SaReply.retried (r : SaReply) (kh : SaHandle) : ReplyVerdict :=
  if kh.state = .iCreate then .retry kh else r.failed

/-- the KRB_ERROR of a REPLY -/
def SaReply.krbVerdict (r : SaReply) (kh : SaHandle) : ReplyVerdict :=
  match r.krbError with
  | none => .proceed
  | some none => r.failed
  | some (some .tktExpired) =>
    if r.apRep = none then .ignore
    else if kh.retryTktExpired then r.failed
    else r.retried { kh with retryTktExpired := true }
  | some (some .skew) =>
    if r.apRep = none then .ignore
    else if kh.retrySkew then r.failed
    else r.retried { kh with retrySkew := true }
  | some (some .other) => r.failed

/-- `handle_reply` up to the reply handler -/
def SaReply.verdict (r : SaReply) (kh : SaHandle) : ReplyVerdict :=
  if r.decodes = false then .ignore
  else if r.apRep = some false then .ignore
  else if r.encrypt = false then r.failed
  else if r.error ≠ none ∧ r.error ≠ some (some 0) then r.failed
  else r.krbVerdict kh

/-- the reply handlers `initiate4`, `retrans_ack` and `delete2`; none of them believes a REPLY without
authentication -/
def saReplyHandler (r : SaReply) (io : ApprovalIo) (kh : SaHandle) (w : KinkWorld) : KinkWorld :=
  if r.apRep = some true then
    if kh.state = .iCreate then initiate4Sa io kh w
    else if kh.state = .iDelete then keepHandle w { kh with state := .iDeleteHalf }
    else w
  else w

/-- `handle_reply`; `fail_abort` releases the handle and nothing else -/
def handleSaReply (r : SaReply) (io : ApprovalIo) (again : CreateIo) (kh : SaHandle) (w : KinkWorld) :
    KinkWorld :=
  if kh.state ≠ .iCreate ∧ kh.state ≠ .iAging ∧ kh.state ≠ .iDelete then w
  else
    match r.verdict kh with
    | .ignore => w
    | .abort => releaseHandle w
    | .retry kh => reinitiate again kh w
    | .proceed => saReplyHandler r io kh w

/-! ## a REPLY as `handleReply` reads it -/

/-- the state of the handle; a STATUS transaction has none with SAs -/
def InitiatorState.handle : InitiatorState → HandleState
  | .getspi => .iGetspi
  | .create => .iCreate
  | .aging => .iAging
  | .stale => .iStale
  | .delete => .iDelete
  | .deleteHalf => .iDeleteHalf
  | .status => .none
  | .rekeyed => .iRekeyed

section
variable {Ctx : Type} (env : Env Ctx)

/-- the handle of a transaction, as far as the verdict reads it -/
structure HandleOf (kh : Transaction Ctx) (sh : SaHandle) : Prop where
  state : sh.state = kh.state.handle
  tktExpired : sh.retryTktExpired = kh.retryTktExpired
  skew : sh.retrySkew = kh.retrySkew

/-- the errors of a REPLY whose AP_REP is settled -/
def saReplyErrors (apRep : Option Bool) (kh : Transaction Ctx) : SaReply :=
  match kinkDecodeKinkEncrypt env kh with
  | some (true, kh) =>
    ⟨true, apRep, true,
      kh.decoded.payloads.error.map fun b => if 4 ≤ b.length then some (be32 b 0) else none,
      kh.decoded.payloads.krbError.map fun b => (env.readError b).map Prod.fst⟩
  | _ => ⟨true, apRep, false, none, none⟩

/-- what `handle_reply` finds in a packet -/
def saReplyOf (kh : Transaction Ctx) (m : Memory) : SaReply :=
  match (kinkDecodeGeneric m kh.decoded).outcome with
  | .done (true, decoded) =>
    let kh := { kh with decoded := decoded, authContext := none }
    match decoded.payloads.apRep with
    | none => saReplyErrors env none kh
    | some apRep =>
      match readKrbApRep env kh apRep with
      | (false, _) => ⟨true, some false, false, none, none⟩
      | (true, kh) =>
        if checksumOk env m kh = false then ⟨true, some false, false, none, none⟩
        else saReplyErrors env (some true) kh
  | _ => ⟨false, none, false, none, none⟩

/-- what a verdict makes of the transaction -/
def VerdictOutcome (handler : Transaction Ctx → ReplyOutcome Ctx) (kh : Transaction Ctx) (r : SaReply)
    (outcome : ReplyOutcome Ctx) : ReplyVerdict → Prop
  | .ignore => ∃ kh', outcome = .ignored kh'
  | .abort => outcome = .aborted
  | .retry sh => kh.state = .create ∧ ∃ kh', HandleOf kh' sh ∧
      outcome = (env.reinitiate kh').elim .aborted .restarted
  | .proceed => ∃ kh', (kh'.authContext.isSome = true ↔ r.apRep = some true) ∧
      outcome = callHandler env handler kh'

theorem readKrbApRep_true {kh kh' : Transaction Ctx} {b : Bytes}
    (h : readKrbApRep env kh b = (true, kh')) :
    ∃ epoch ctx, kh' = { kh with recvEpoch := epoch, authContext := some ctx } := by
  unfold readKrbApRep at h
  by_cases hlen : b.length < 4
  · rw [if_pos hlen] at h
    cases h
  rw [if_neg hlen] at h
  dsimp only at h
  cases hfind : kh.vAuthContexts.reverse.find? fun ctx => env.checkApRep ctx (b.drop 4) with
  | none =>
    rw [hfind] at h
    cases h
  | some ctx =>
    rw [hfind] at h
    cases h
    exact ⟨_, _, rfl⟩

/-- the handle between the AP_REP and the errors -/
structure Settled (apRep : Option Bool) (kh : Transaction Ctx) : Prop where
  verified : apRep ≠ some false
  context : kh.authContext.isSome = true ↔ apRep = some true
  payload : kh.decoded.payloads.apRep = none ↔ apRep = none

variable {env} {handler : Transaction Ctx → ReplyOutcome Ctx} {kh kh₀ : Transaction Ctx} {sh : SaHandle}
  {apRep : Option Bool} {r : SaReply}

theorem fail_verdict (hcontext : kh.authContext.isSome = true ↔ apRep = some true)
    (hrep : r.apRep = apRep) :
    VerdictOutcome env handler kh₀ r (fail kh) r.failed := by
  unfold SaReply.failed fail
  rw [hrep]
  by_cases hauth : apRep = some true
  · have hsome := hcontext.mpr hauth
    rw [if_pos hauth, if_neg (by rw [← Option.not_isSome, hsome]; decide)]
    rfl
  · have hnone : kh.authContext.isNone = true := by
      rw [← Option.not_isSome, Bool.not_eq_true', ← Bool.not_eq_true]
      exact fun h => hauth (hcontext.mp h)
    rw [if_neg hauth, if_pos hnone]
    exact ⟨_, rfl⟩

/-- the KINK_ERROR of a REPLY stops it or not -/
theorem kinkError_verdict (error : Option Bytes) :
    error.all kinkErrorOk = false ↔
      (error.map fun b => if 4 ≤ b.length then some (be32 b 0) else none) ≠ none ∧
      (error.map fun b => if 4 ≤ b.length then some (be32 b 0) else none) ≠ some (some 0) := by
  cases error with
  | none => simp
  | some b =>
    simp only [Option.all_some, kinkErrorOk, Option.map_some, ne_eq, reduceCtorEq, not_false_eq_true,
      Option.some.injEq, true_and]
    by_cases hlen : 4 ≤ b.length
    · simp [hlen]
    · simp [hlen]

/-- the result 2 of `handle_krb_error` -/
theorem retried_verdict (hset : Settled apRep kh) (hrep : r.apRep = apRep) (hhandle : HandleOf kh sh)
    (hstate : kh.state = kh₀.state) :
    VerdictOutcome env handler kh₀ r
      (if kh.state = .create then
        match env.reinitiate { kh.release with vAuthContexts := [] } with
        | none => .aborted
        | some kh => .restarted kh
      else fail kh) (r.retried sh) := by
  unfold SaReply.retried
  by_cases hcreate : kh.state = .create
  · have hsa : sh.state = .iCreate := by
      rw [hhandle.state, hcreate]
      rfl
    rw [if_pos hcreate, if_pos hsa]
    refine ⟨hstate ▸ hcreate, { kh.release with vAuthContexts := [] },
      ⟨hhandle.state, hhandle.tktExpired, hhandle.skew⟩, ?_⟩
    cases env.reinitiate { kh.release with vAuthContexts := [] } with
    | none => rfl
    | some kh => rfl
  · have hsa : sh.state ≠ .iCreate := by
      rw [hhandle.state]
      cases hk : kh.state with
      | create => exact absurd hk hcreate
      | getspi => decide
      | aging => decide
      | stale => decide
      | delete => decide
      | deleteHalf => decide
      | status => decide
      | rekeyed => decide
    rw [if_neg hcreate, if_neg hsa]
    exact fail_verdict hset.context hrep

/-- `handle_reply` from the errors on -/
theorem handleErrors_verdict (hset : Settled apRep kh) (hhandle : HandleOf kh sh)
    (hstate : kh.state = kh₀.state) {r : SaReply} (hr : r = ⟨true, apRep, true,
      kh.decoded.payloads.error.map fun b => if 4 ≤ b.length then some (be32 b 0) else none,
      kh.decoded.payloads.krbError.map fun b => (env.readError b).map Prod.fst⟩) :
    VerdictOutcome env handler kh₀ r (handleErrors env handler kh) (r.verdict sh) := by
  have hrep : r.apRep = apRep := by rw [hr]
  have hfail : VerdictOutcome env handler kh₀ r (fail kh) r.failed := fail_verdict hset.context hrep
  have hdecodes : ¬ r.decodes = false := by
    rw [hr]
    exact Bool.false_ne_true.symm
  have hverified : ¬ r.apRep = some false := by
    rw [hrep]
    exact hset.verified
  have hencrypt : ¬ r.encrypt = false := by
    rw [hr]
    exact Bool.false_ne_true.symm
  unfold SaReply.verdict handleErrors
  rw [if_neg hdecodes, if_neg hverified, if_neg hencrypt]
  by_cases herror : kh.decoded.payloads.error.all kinkErrorOk = false
  · have hstop : r.error ≠ none ∧ r.error ≠ some (some 0) := by
      rw [hr]
      exact (kinkError_verdict _).mp herror
    rw [if_pos herror, if_pos hstop]
    exact hfail
  have hgo : ¬ (r.error ≠ none ∧ r.error ≠ some (some 0)) := by
    rw [hr]
    exact fun h => herror ((kinkError_verdict _).mpr h)
  rw [if_neg herror, if_neg hgo]
  unfold SaReply.krbVerdict
  have hkrbError : r.krbError = kh.decoded.payloads.krbError.map fun b => (env.readError b).map Prod.fst := by
    rw [hr]
  rw [hkrbError]
  cases hkrb : kh.decoded.payloads.krbError with
  | none => exact ⟨kh, hrep ▸ hset.context, rfl⟩
  | some b =>
    show VerdictOutcome env handler kh₀ r _ _
    dsimp only [Option.map_some]
    unfold handleKrbError
    cases hread : env.readError b with
    | none => exact hfail
    | some e =>
      obtain ⟨code, offset⟩ := e
      cases code with
      | other => exact hfail
      | tktExpired =>
        dsimp only [Option.map_some]
        by_cases hnone : kh.decoded.payloads.apRep = none
        · rw [if_pos hnone, if_pos (hrep.trans (hset.payload.mp hnone))]
          exact ⟨_, rfl⟩
        rw [if_neg hnone, if_neg fun h => hnone (hset.payload.mpr (hrep.symm.trans h)), hhandle.tktExpired]
        cases kh.retryTktExpired with
        | true => exact hfail
        | false =>
          exact retried_verdict ⟨hset.verified, hset.context, hset.payload⟩ hrep
            ⟨hhandle.state, rfl, hhandle.skew⟩ hstate
      | skew =>
        dsimp only [Option.map_some]
        by_cases hnone : kh.decoded.payloads.apRep = none
        · rw [if_pos hnone, if_pos (hrep.trans (hset.payload.mp hnone))]
          exact ⟨_, rfl⟩
        rw [if_neg hnone, if_neg fun h => hnone (hset.payload.mpr (hrep.symm.trans h)), hhandle.skew]
        cases kh.retrySkew with
        | true => exact hfail
        | false =>
          exact retried_verdict ⟨hset.verified, hset.context, hset.payload⟩ hrep
            ⟨hhandle.state, hhandle.tktExpired, rfl⟩ hstate

/-- KINK_ENCRYPT changes what is decoded and nothing else; an AP_REP stays -/
theorem kinkDecodeKinkEncrypt_ends (env : Env Ctx) (kh : Transaction Ctx) :
    ∃ ok decoded, kinkDecodeKinkEncrypt env kh = some (ok, { kh with decoded := decoded })
      ∧ (ok = true → decoded = kh.decoded ∨ kh.authContext.isSome = true
        ∧ (kh.decoded.payloads.apRep ≠ none → decoded.payloads.apRep = kh.decoded.payloads.apRep)) := by
  fun_cases kinkDecodeKinkEncrypt env kh with
  | case1 => exact ⟨true, kh.decoded, rfl, fun _ => .inl rfl⟩
  | case2 => exact ⟨false, kh.decoded, rfl, fun hok => absurd hok Bool.false_ne_true⟩
  | case3 => exact ⟨false, kh.decoded, rfl, fun hok => absurd hok Bool.false_ne_true⟩
  | case4 e ctx hctx henc body hbody hout => exact absurd hout (decodeEncrypted_gives kh.decoded).1
  | case5 => exact ⟨false, kh.decoded, rfl, fun hok => absurd hok Bool.false_ne_true⟩
  | case6 e ctx hctx henc body hbody ok decoded hout =>
    refine ⟨ok, decoded, rfl, fun _ => .inr ⟨?_, (decodeEncrypted_gives kh.decoded).2 _ hout⟩⟩
    rw [hctx]
    rfl

/-- `handle_reply` from KINK_ENCRYPT on -/
theorem handleEncrypt_verdict (hset : Settled apRep kh) (hhandle : HandleOf kh sh)
    (hstate : kh.state = kh₀.state) :
    VerdictOutcome env handler kh₀ (saReplyErrors env apRep kh) (handleEncrypt env handler kh)
      ((saReplyErrors env apRep kh).verdict sh) := by
  have hstop : ∀ decoded, VerdictOutcome env handler kh₀ ⟨true, apRep, false, none, none⟩
      (fail { kh with decoded := decoded }) (SaReply.verdict ⟨true, apRep, false, none, none⟩ sh) := by
    intro decoded
    unfold SaReply.verdict
    rw [if_neg Bool.false_ne_true.symm, if_neg hset.verified, if_pos rfl]
    exact fail_verdict hset.context rfl
  unfold saReplyErrors handleEncrypt
  obtain ⟨ok, decoded, heq, hkeeps⟩ := kinkDecodeKinkEncrypt_ends env kh
  cases ok with
  | false =>
    rw [heq]
    exact hstop decoded
  | true =>
    have hpayload : decoded.payloads.apRep = none ↔ apRep = none := by
      rcases hkeeps rfl with rfl | ⟨hsome, hthere⟩
      · exact hset.payload
      · have hauth := hset.context.mp hsome
        rw [hthere fun hnone => by rw [hset.payload.mp hnone] at hauth; cases hauth]
        exact hset.payload
    have hset' : Settled apRep { kh with decoded := decoded } :=
      ⟨hset.verified, hset.context, hpayload⟩
    rw [heq]
    exact handleErrors_verdict hset' ⟨hhandle.state, hhandle.tktExpired, hhandle.skew⟩ hstate rfl

/-- `handle_reply` comes to the verdict of `SaReply.verdict` on what it finds in the packet; past it the
reply handler is called, or the peer with another epoch is not there any more -/
theorem handleReply_verdict {m : Memory} (hhandle : HandleOf kh sh)
    (hxid : be32 m.octets 8 = kh.decoded.xid) (hhandler : replyHandler env kh.state = some handler)
    (hm : headerSize ≤ m.size) :
    VerdictOutcome env handler kh (saReplyOf env kh m) (handleReply env kh m)
      ((saReplyOf env kh m).verdict sh) := by
  have hgives := kinkDecodeGeneric_gives hm kh.decoded
  unfold handleReply saReplyOf
  rw [if_neg (not_not.mpr hxid), hhandler]
  dsimp only
  cases hout : (kinkDecodeGeneric m kh.decoded).outcome with
  | stuck => exact absurd hout hgives.1
  | fail => exact ⟨_, rfl⟩
  | done x =>
    obtain ⟨ok, decoded⟩ := x
    cases ok with
    | false => exact ⟨_, rfl⟩
    | true =>
      dsimp only
      rw [if_neg Bool.false_ne_true.symm]
      cases hrep : decoded.payloads.apRep with
      | none =>
        have hset : Settled none { kh with decoded := decoded, authContext := none } :=
          ⟨fun h => (by cases h), ⟨fun h => (by cases h), fun h => (by cases h)⟩,
            ⟨fun _ => rfl, fun _ => hrep⟩⟩
        exact handleEncrypt_verdict hset ⟨hhandle.state, hhandle.tktExpired, hhandle.skew⟩ rfl
      | some b =>
        dsimp only
        rcases hread : readKrbApRep env { kh with decoded := decoded, authContext := none } b
          with ⟨_ | _, kh'⟩
        · exact ⟨_, rfl⟩
        dsimp only
        cases hsum : checksumOk env m kh' with
        | false => exact ⟨_, rfl⟩
        | true =>
          rw [if_neg Bool.false_ne_true.symm, if_neg Bool.false_ne_true.symm]
          obtain ⟨epoch, ctx, rfl⟩ := readKrbApRep_true env hread
          have hset : Settled (some true)
              { kh with decoded := decoded, recvEpoch := epoch, authContext := some ctx } := by
            refine ⟨fun h => (by cases h), ⟨fun _ => rfl, fun _ => rfl⟩, fun h => ?_, fun h => (by cases h)⟩
            rw [show decoded.payloads.apRep = none from h] at hrep
            cases hrep
          exact handleEncrypt_verdict hset ⟨hhandle.state, hhandle.tktExpired, hhandle.skew⟩ rfl

end

/-! ## the responder -/

/-- what the calls of `respond2` give: up to the keys, the update, the add, the POLICY ADD for spmd and
the REPLY -/
structure RespondIo where
  prepared : Bool
  update : Option Nat
  add : Option Nat
  policy : Bool
  sent : Bool
  deriving DecidableEq, Repr

/-- `respond2` from the POLICY ADD on -/
def sendReply (io : RespondIo) (kh : SaHandle) (w : KinkWorld) : KinkWorld :=
  if io.policy = false then releaseHandle w
  else if io.sent = false then releaseHandle w
  else if kh.isOptimistic then keepHandle { w with inUse := true } { kh with state := .rAging }
  else keepHandle w { kh with state := .rReply }

/-- `respond2` from the outbound SA on -/
def respondOutbound (io : RespondIo) (kh : SaHandle) (w : KinkWorld) : KinkWorld :=
  if kh.isOptimistic then
    if pkOk io.add kh.approval = false then releaseHandle (pkSendadd w io.add kh.approval)
    else sendReply io kh (pkSendadd w io.add kh.approval)
  else sendReply io kh w

/-- `respond2` -/
def respond2 (io : RespondIo) (kh : SaHandle) (w : KinkWorld) : KinkWorld :=
  if io.prepared = false then releaseHandle w
  else if pkOk io.update kh.approval = false then
    releaseHandle (pkSendupdate w io.update kh.approval)
  else respondOutbound io kh (pkSendupdate w io.update kh.approval)

/-- `respond_ack` -/
def respondAck (add : Option Nat) (kh : SaHandle) (w : KinkWorld) : KinkWorld :=
  if kh.state ≠ .rReply then w
  else if pkOk add kh.approval = false then releaseHandle (pkSendadd w add kh.approval)
  else keepHandle { pkSendadd w add kh.approval with inUse := true } { kh with state := .rStale }

/-! ## timers and the end of an SA -/

/-- what the calls of a timer give: whether the message is sent again, and the delete -/
structure TimerIo where
  sent : Bool
  delete : Option Nat
  deriving DecidableEq, Repr

/-- `delete1`; when it fails the handle stays as it is, without a timer -/
def delete1 (io : TimerIo) (kh : SaHandle) (w : KinkWorld) : KinkWorld :=
  keepHandle (pkSenddelete w io.delete kh.approval .outbound)
    { kh with initiator := true, state := if io.sent then .iDelete else kh.state }

/-- REPLY_TRIAL_COUNT -/
def replyTrialCount : Nat := 5

/-- `retrans_reply` returns 0 -/
def retransReply (io : TimerIo) (kh : SaHandle) : Bool :=
  decide (kh.retransCount + 1 ≤ replyTrialCount) && io.sent

/-- the `timeout_handler` of a state -/
def handleTimeout (io : TimerIo) (kh : SaHandle) (w : KinkWorld) : KinkWorld :=
  match kh.state with
  | .none => w
  | .iGetspi => releaseHandle w
  | .iCreate => if io.sent then w else abortCreate io.delete kh w
  | .iAging => keepHandle w { kh with state := .iStale }
  | .iStale => releaseHandle w
  | .rGetspi => releaseHandle w
  | .rReply =>
    keepHandle w { kh with
      retransCount := kh.retransCount + 1
      state := if retransReply io kh then .rReply else .rStale }
  | .rAging => keepHandle w { kh with state := .rStale }
  | .rStale => releaseHandle w
  | .iDelete => if io.sent then w else releaseHandle w
  | .iDeleteHalf => releaseHandle (pkSenddelete w io.delete kh.approval .inbound)
  | .rDeleteRecv =>
    keepHandle (pkSenddelete w io.delete kh.approval .outbound) { kh with state := .rDeleteHalf }
  | .rDeleteHalf => releaseHandle (pkSenddelete w io.delete kh.approval .inbound)
  | .iRekeyed => delete1 io kh w

/-- the states in which an SA may be deleted by the kernel or by the peer -/
def SaHandle.mature (kh : SaHandle) : Bool :=
  kh.state == .iAging || kh.state == .iStale || kh.state == .rAging || kh.state == .rStale

/-- `dpd_refresh_peer` for another handle of the same peer -/
def dpdExpungeHandle (delete : Option Nat) (kh : SaHandle) (w : KinkWorld) : KinkWorld :=
  match kh.approval with
  | none => releaseHandle w
  | some _ => releaseHandle (pkSenddelete w delete kh.approval .outbound)

/-! ## runs -/

inductive KinkEvent where
  /-- `initiate2_fqdn` with the proposals of the policy; without them it, or what comes before, failed -/
  | initiate2 (proposal : Option (List SaProp))
  /-- `respond1` with the approval, `nth_prop` and `non1st_trns` -/
  | respond1 (found : Option (SaProp × Nat × Bool))
  /-- an SPI from the kernel -/
  | getspi (protoId spi : Nat) (create : CreateIo) (respond : RespondIo)
  | reply (r : SaReply) (io : ApprovalIo) (again : CreateIo)
  | ack (add : Option Nat)
  | timeout (io : TimerIo)
  /-- `delete`, the kernel's -/
  | delete (io : TimerIo)
  /-- `delete_sa`, the peer's -/
  | deleteSa
  /-- `expire`, and the success of the handle that rekeys this one -/
  | expire
  | rekeyed
  | expunge (delete : Option Nat)
  /-- the kernel drops an SA at its hard lifetime -/
  | hardExpire (sa : KernelSa)
  deriving DecidableEq, Repr

/-- `callback_i_getspi`, `callback_r_getspi` -/
def callbackGetspi (protoId spi : Nat) (create : CreateIo) (respond : RespondIo) (kh : SaHandle)
    (w : KinkWorld) : KinkWorld :=
  if kh.state = .iGetspi then
    let (proposal, all) := waitAllSpi kh.proposal protoId spi
    let kh := { kh with proposal := proposal }
    if all then initiate3 create kh w else keepHandle w kh
  else if kh.state = .rGetspi then
    let (approval, all) := waitAllSpi kh.approval.toList protoId spi
    let kh := { kh with approval := approval.head? }
    if all then respond2 respond kh w else keepHandle w kh
  else w

/-- an event for a handle that is there -/
def handleEvent (kh : SaHandle) (w : KinkWorld) : KinkEvent → KinkWorld
  | .initiate2 proposal =>
    if kh.state = .none ∧ kh.initiator then
      match proposal with
      | none => releaseHandle w
      | some pps => keepHandle w { kh with proposal := pps, state := .iGetspi }
    else w
  | .respond1 found =>
    if kh.state = .none ∧ kh.initiator = false then
      match found with
      | none => releaseHandle w
      | some found => keepHandle w { kh.approve found with state := .rGetspi }
    else w
  | .getspi protoId spi create respond => callbackGetspi protoId spi create respond kh w
  | .reply r io again => handleSaReply r io again kh w
  | .ack add => respondAck add kh w
  | .timeout io => handleTimeout io kh w
  | .delete io => if kh.mature then delete1 io kh w else w
  | .deleteSa => if kh.mature then keepHandle w { kh with state := .rDeleteRecv } else w
  | .expire =>
    if kh.initiator ∧ (kh.state = .iStale ∨ kh.state = .iAging) then
      keepHandle w { kh with rekeyingStart := true }
    else w
  | .rekeyed => if kh.rekeyingStart then keepHandle w { kh with state := .iRekeyed } else w
  | .expunge delete => dpdExpungeHandle delete kh w
  | .hardExpire sa => { w with sadb := w.sadb.filter (· ≠ sa) }

def KinkWorld.step (w : KinkWorld) (e : KinkEvent) : KinkWorld :=
  match w.kh with
  | none => w
  | some kh => handleEvent kh w e

end Kink
