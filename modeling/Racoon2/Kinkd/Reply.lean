import Racoon2.Kinkd.Decode

/-!
# Replies to the transactions of an initiator

`handle_reply` decodes a REPLY into the handle of its transaction, authenticates it, reads the errors
it carries and calls the reply handler of the state. Whether the reply was authenticated is left in
`auth_context`, for the handlers to test.

* `handleReply`: the function, with the handlers `initiate4`, `retransAck`, `delete2` and `status2`;
* `Genuine`: a REPLY with an AP_REP and a checksum of the peer;
* `Scratch`: two handles that differ in what every authenticated REPLY overwrites;
* `Bare`: a REPLY that comes to the reply handler without authentication.
-/

set_option linter.unusedVariables false

namespace Kink
open Bytes

/-- the states of an initiator -/
inductive InitiatorState where
  | getspi
  | create
  | aging
  | stale
  | delete
  | deleteHalf
  | status
  | rekeyed
  deriving DecidableEq, Repr

/-- the state has a `reply_handler` -/
def InitiatorState.replies : InitiatorState → Bool
  | .create => true
  | .aging => true
  | .delete => true
  | .status => true
  | _ => false

/-- the errors of Kerberos that `bbkk_map_krb5error` tells apart -/
inductive KrbError where
  | tktExpired
  | skew
  | other
  deriving DecidableEq, Repr

/-- the handle of an initiator, as far as a REPLY reads or writes it. `vAuthContexts` are the
contexts of the requests sent, `cred` and `toffset` those of the peer -/
structure Transaction (Ctx : Type) where
  state : InitiatorState
  decoded : Decoded
  authContext : Option Ctx
  vAuthContexts : List Ctx
  recvEpoch : Nat
  peerEpoch : Nat
  retryTktExpired : Bool
  retrySkew : Bool
  cred : Bool
  toffset : Int
  inIsakmp : Option Bytes
  isakmp1sttype : Nat

/-- Kerberos and the rest of the daemon: the authentication, the errors, and what an authenticated
REPLY leads to -/
structure Env (Ctx : Type) where
  checkApRep : Ctx → Bytes → Bool
  verifyCksum : Ctx → Bytes → Bytes → Bool
  decrypt : Ctx → Bytes → Option Memory
  readError : Bytes → Option (KrbError × Int)
  dpdRefreshPeer : Transaction Ctx → Option Nat
  quickI2recv : Transaction Ctx → Option Bool
  install : Transaction Ctx → Bool
  reinitiate : Transaction Ctx → Option (Transaction Ctx)

/-- what became of the transaction -/
inductive ReplyOutcome (Ctx : Type) where
  | hung
  | ignored (kh : Transaction Ctx)
  | moved (kh : Transaction Ctx)
  | ackSent (kh : Transaction Ctx)
  | restarted (kh : Transaction Ctx)
  | released
  | aborted

variable {Ctx : Type}

namespace Transaction

/-- `release_payloads` -/
def release (kh : Transaction Ctx) : Transaction Ctx :=
  { kh with decoded := { kh.decoded with payloads := releasePayloads } }

end Transaction

def flagAckreq : Nat := 128

/-- `read_kink_isakmp` -/
def readKinkIsakmp (kh : Transaction Ctx) (buf : Bytes) : Option (Transaction Ctx) :=
  if buf.length < 4 then none
  else if byteAt buf 1 ≠ 0x10 then none
  else some { kh with inIsakmp := some (buf.drop 4), isakmp1sttype := (byteAt buf 0).toNat }

section
variable (env : Env Ctx)

/-- `initiate4`; `quick_i2recv` says if the responder did not take the first choice, `install` is
the way to the outbound SA -/
def initiate4 (kh : Transaction Ctx) : ReplyOutcome Ctx :=
  if kh.authContext.isNone then .ignored kh.release
  else
    match kh.decoded.payloads.isakmp with
    | none => .aborted
    | some buf =>
      match readKinkIsakmp kh buf with
      | none => .aborted
      | some kh =>
        match env.quickI2recv kh with
        | none => .aborted
        | some other =>
          if env.install kh = false then .aborted
          else
            let flags := if other then kh.decoded.flags ||| flagAckreq else kh.decoded.flags
            let kh := { kh with inIsakmp := none }.release
            if flags &&& flagAckreq ≠ 0 then
              .moved { kh with state := .aging, decoded := { kh.decoded with flags := 0 } }
            else .moved { kh with state := .stale, decoded := { kh.decoded with flags := flags } }

/-- `retrans_ack` -/
def retransAck (kh : Transaction Ctx) : ReplyOutcome Ctx :=
  if kh.authContext.isNone then .ignored kh.release else .ackSent kh.release

/-- `delete2` -/
def delete2 (kh : Transaction Ctx) : ReplyOutcome Ctx :=
  if kh.authContext.isNone then .ignored kh.release else .moved { kh with state := .deleteHalf }

/-- `status2` releases the handle with or without KINK_ISAKMP -/
def status2 (kh : Transaction Ctx) : ReplyOutcome Ctx := .released

/-- the `reply_handler` of a state -/
def replyHandler : InitiatorState → Option (Transaction Ctx → ReplyOutcome Ctx)
  | .create => some (initiate4 env)
  | .aging => some retransAck
  | .delete => some delete2
  | .status => some status2
  | _ => none

/-- the label `fail`: an unauthenticated REPLY does not abort the transaction -/
def fail (kh : Transaction Ctx) : ReplyOutcome Ctx :=
  if kh.authContext.isNone then .ignored kh.release else .aborted

/-- `read_krb_ap_rep`, and whether it returns 0; the contexts are tried from the last one on -/
def readKrbApRep (kh : Transaction Ctx) (apRep : Bytes) : Bool × Transaction Ctx :=
  if apRep.length < 4 then (false, kh)
  else
    let kh := { kh with recvEpoch := be32 apRep 0 }
    match kh.vAuthContexts.reverse.find? (fun ctx => env.checkApRep ctx (apRep.drop 4)) with
    | none => (false, kh)
    | some ctx => (true, { kh with authContext := some ctx })

/-- `kink_decode_kink_encrypt`, and whether it returns 0; `none` if it does not return -/
def kinkDecodeKinkEncrypt (kh : Transaction Ctx) : Option (Bool × Transaction Ctx) :=
  match kh.decoded.payloads.encrypt, kh.authContext with
  | none, _ => some (true, kh)
  | some _, none => some (false, kh)
  | some encrypt, some ctx =>
    match env.decrypt ctx encrypt with
    | none => some (false, kh)
    | some body =>
      match (decodeEncrypted body kh.decoded).outcome with
      | .stuck => none
      | .fail => some (false, kh)
      | .done (ok, decoded) => some (ok, { kh with decoded := decoded })

/-- `handle_kink_error` proceeds; it gives 3 for every other error -/
def kinkErrorOk (error : Bytes) : Bool := 4 ≤ error.length && be32 error 0 = 0

/-- the results of `handle_krb_error` -/
inductive KrbVerdict (Ctx : Type) where
  | ignore
  | retry (kh : Transaction Ctx)
  | abort

/-- `handle_krb_error` -/
def handleKrbError (kh : Transaction Ctx) (krbError : Bytes) : KrbVerdict Ctx :=
  match env.readError krbError with
  | none => .abort
  | some (.tktExpired, _) =>
    if kh.decoded.payloads.apRep = none then .ignore
    else if kh.retryTktExpired then .abort
    else .retry { kh with retryTktExpired := true, cred := false }
  | some (.skew, offset) =>
    if kh.decoded.payloads.apRep = none then .ignore
    else if kh.retrySkew then .abort
    else .retry { kh with retrySkew := true, toffset := offset }
  | some (.other, _) => .abort

/-- the epoch of an AP_REP, and whether the peer it leads to is there -/
def checkEpoch (kh : Transaction Ctx) : Option (Transaction Ctx) :=
  if kh.decoded.payloads.apRep = none then some kh
  else if kh.recvEpoch = 0 then some kh
  else if kh.peerEpoch = 0 then some { kh with peerEpoch := kh.recvEpoch }
  else if kh.recvEpoch ≠ kh.peerEpoch then
    (env.dpdRefreshPeer kh).map fun epoch => { kh with peerEpoch := epoch }
  else some kh

/-- `handle_reply` from the epoch on -/
def callHandler (handler : Transaction Ctx → ReplyOutcome Ctx) (kh : Transaction Ctx) :
    ReplyOutcome Ctx :=
  match checkEpoch env kh with
  | none => .aborted
  | some kh => handler kh

/-- `handle_reply` from the errors on -/
def handleErrors (handler : Transaction Ctx → ReplyOutcome Ctx) (kh : Transaction Ctx) :
    ReplyOutcome Ctx :=
  if kh.decoded.payloads.error.all kinkErrorOk = false then fail kh
  else
    match kh.decoded.payloads.krbError with
    | none => callHandler env handler kh
    | some krbError =>
      match handleKrbError env kh krbError with
      | .ignore => .ignored kh.release
      | .abort => fail kh
      | .retry kh =>
        if kh.state = .create then
          match env.reinitiate { kh.release with vAuthContexts := [] } with
          | none => .aborted
          | some kh => .restarted kh
        else fail kh

/-- `handle_reply` from KINK_ENCRYPT on -/
def handleEncrypt (handler : Transaction Ctx → ReplyOutcome Ctx) (kh : Transaction Ctx) :
    ReplyOutcome Ctx :=
  match kinkDecodeKinkEncrypt env kh with
  | none => .hung
  | some (false, kh) => fail kh
  | some (true, kh) => handleErrors env handler kh

/-- the checksum of the packet, with the context that the AP_REP was for -/
def checksumOk (m : Memory) (kh : Transaction Ctx) : Bool :=
  match (kinkDecodeVerifyChecksum m (kh.authContext.map env.verifyCksum)).outcome with
  | .done ok => ok
  | _ => false

/-- `handle_reply`, for the transaction with the handle `kh`: a REPLY with another XID is not for it -/
def handleReply (kh : Transaction Ctx) (m : Memory) : ReplyOutcome Ctx :=
  if be32 m.octets 8 ≠ kh.decoded.xid then .ignored kh
  else
    match replyHandler env kh.state with
    | none => .ignored kh
    | some handler =>
      match (kinkDecodeGeneric m kh.decoded).outcome with
      | .stuck => .hung
      | .fail => .ignored kh.release
      | .done (ok, decoded) =>
        let kh := { kh with decoded := decoded }
        if ok = false then .ignored kh.release
        else
          let kh := { kh with authContext := none }
          match decoded.payloads.apRep with
          | none => handleEncrypt env handler kh
          | some apRep =>
            match readKrbApRep env kh apRep with
            | (false, kh) => .ignored kh.release
            | (true, kh) =>
              if checksumOk env m kh = false then .ignored kh.release
              else handleEncrypt env handler kh

/-- replies one after the other, as long as they are ignored -/
def handleReplies (kh : Transaction Ctx) : List Memory → ReplyOutcome Ctx
  | [] => .ignored kh
  | m :: rest =>
    match handleReply env kh m with
    | .ignored kh => handleReplies kh rest
    | outcome => outcome

end

/-! ## replies without authentication -/

section
variable (env : Env Ctx)

/-- a REPLY for the transaction, with an AP_REP that verifies under one of its contexts and a
checksum that verifies with it -/
def Genuine (kh : Transaction Ctx) (m : Memory) : Prop :=
  be32 m.octets 8 = kh.decoded.xid ∧
  ∃ decoded apRep ctx, (kinkDecodeGeneric m kh.decoded).outcome = .done (true, decoded) ∧
    decoded.payloads.apRep = some apRep ∧ 4 ≤ apRep.length ∧ ctx ∈ kh.vAuthContexts ∧
    env.checkApRep ctx (apRep.drop 4) = true ∧
    (kinkDecodeVerifyChecksum m (some (env.verifyCksum ctx))).outcome = .done true

end

/-- a REPLY for the transaction that decodes, with no AP_REP, no KINK_ENCRYPT, no KRB_ERROR and no
KINK_ERROR but KINK_OK -/
def Bare (kh : Transaction Ctx) (m : Memory) : Prop :=
  be32 m.octets 8 = kh.decoded.xid ∧
  ∃ decoded, (kinkDecodeGeneric m kh.decoded).outcome = .done (true, decoded) ∧
    decoded.payloads.apRep = none ∧ decoded.payloads.encrypt = none ∧
    decoded.payloads.krbError = none ∧ decoded.payloads.error.all kinkErrorOk = true

/-- the handles differ in what every authenticated REPLY overwrites -/
def Scratch (kh kh' : Transaction Ctx) : Prop :=
  ∃ flags errorCode recvEpoch authContext, kh' = { kh with
    decoded := { kh.decoded with flags := flags, errorCode := errorCode }
    recvEpoch := recvEpoch
    authContext := authContext }

/-- no payload is held between two messages -/
def AtRest (kh : Transaction Ctx) : Prop := kh.decoded.payloads = releasePayloads

section
variable {env : Env Ctx} {kh kh' kh'' : Transaction Ctx} {m : Memory}

theorem Scratch.refl (kh : Transaction Ctx) : Scratch kh kh := ⟨_, _, _, _, rfl⟩

theorem Scratch.trans (h : Scratch kh kh') (h' : Scratch kh' kh'') : Scratch kh kh'' := by
  obtain ⟨_, _, _, _, rfl⟩ := h
  obtain ⟨_, _, _, _, rfl⟩ := h'
  exact ⟨_, _, _, _, rfl⟩

theorem Scratch.atRest (h : Scratch kh kh') (hrest : AtRest kh) : AtRest kh' := by
  obtain ⟨_, _, _, _, rfl⟩ := h
  exact hrest

theorem Scratch.genuine_iff (h : Scratch kh kh') : Genuine env kh' m ↔ Genuine env kh m := by
  obtain ⟨_, _, _, _, rfl⟩ := h
  exact Iff.rfl

theorem Scratch.bare_iff (h : Scratch kh kh') : Bare kh' m ↔ Bare kh m := by
  obtain ⟨_, _, _, _, rfl⟩ := h
  exact Iff.rfl

theorem Scratch.state_eq (h : Scratch kh kh') : kh'.state = kh.state := by
  obtain ⟨_, _, _, _, rfl⟩ := h
  rfl

/-- an authenticated REPLY is handled alike -/
theorem Scratch.handleReply_eq (h : Scratch kh kh') (hgenuine : Genuine env kh m)
    (hhandler : replyHandler env kh.state ≠ none) :
    handleReply env kh' m = handleReply env kh m := by
  obtain ⟨hxid, decoded, apRep, ctx, hdone, hrep, hlen, -, -, -⟩ := hgenuine
  obtain ⟨flags, errorCode, recvEpoch, authContext, rfl⟩ := h
  obtain ⟨handler, hhandler⟩ := Option.ne_none_iff_exists'.mp hhandler
  have hdone' : (kinkDecodeGeneric m
      { kh.decoded with flags := flags, errorCode := errorCode }).outcome = .done (true, decoded) :=
    hdone
  unfold handleReply
  simp only [hxid, ne_eq, not_true, if_false, hhandler]
  rw [hdone']
  simp only [hdone, hrep]
  unfold readKrbApRep
  simp only [Nat.not_lt_of_le hlen, if_false, Bool.true_eq_false]

/-- what is left of a REPLY that is ignored -/
theorem scratch_release (hrest : AtRest kh) {decoded : Decoded}
    (hxid : decoded.xid = kh.decoded.xid) (henc : decoded.encrypted = kh.decoded.encrypted)
    (recvEpoch : Nat) (authContext : Option Ctx) :
    Scratch kh (Transaction.release { kh with
      decoded := decoded, recvEpoch := recvEpoch, authContext := authContext }) := by
  have hdecoded : { decoded with payloads := releasePayloads } =
      { kh.decoded with flags := decoded.flags, errorCode := decoded.errorCode } := by
    rw [hxid, henc, ← hrest]
  exact ⟨decoded.flags, decoded.errorCode, recvEpoch, authContext, congrArg (fun d =>
    { kh with decoded := d, recvEpoch := recvEpoch, authContext := authContext }) hdecoded⟩

/-- without authentication the errors of a REPLY do nothing, and the handlers are left to ignore it -/
theorem handleEncrypt_unauthenticated {handler : Transaction Ctx → ReplyOutcome Ctx}
    (hauth : kh.authContext = none) (hrep : kh.decoded.payloads.apRep = none) :
    handleEncrypt env handler kh =
      if kh.decoded.payloads.encrypt = none ∧ kh.decoded.payloads.krbError = none ∧
        kh.decoded.payloads.error.all kinkErrorOk = true then handler kh
      else .ignored kh.release := by
  have hfail : fail kh = .ignored kh.release := by
    unfold fail
    rw [hauth]
    rfl
  unfold handleEncrypt kinkDecodeKinkEncrypt
  cases henc : kh.decoded.payloads.encrypt with
  | some encrypt =>
    rw [hauth, if_neg (fun h => nomatch h.1)]
    exact hfail
  | none =>
    dsimp only
    unfold handleErrors
    cases herr : kh.decoded.payloads.error.all kinkErrorOk with
    | false =>
      rw [if_pos rfl, if_neg (fun h => nomatch h.2.2)]
      exact hfail
    | true =>
      rw [if_neg (by decide)]
      cases hkrb : kh.decoded.payloads.krbError with
      | none =>
        rw [if_pos ⟨rfl, rfl, rfl⟩]
        unfold callHandler checkEpoch
        rw [if_pos hrep]
      | some krbError =>
        rw [if_neg (fun h => nomatch h.2.1)]
        dsimp only
        have hverdict : handleKrbError env kh krbError = .ignore ∨
            handleKrbError env kh krbError = .abort := by
          unfold handleKrbError
          split
          · exact .inr rfl
          · rw [if_pos hrep]
            exact .inl rfl
          · rw [if_pos hrep]
            exact .inl rfl
          · exact .inr rfl
        rcases hverdict with hv | hv
        · rw [hv]
        · rw [hv]
          exact hfail

theorem replyHandler_replies {handler : Transaction Ctx → ReplyOutcome Ctx}
    (h : replyHandler env kh.state = some handler) : kh.state.replies = true := by
  cases hstate : kh.state with
  | create => rfl
  | aging => rfl
  | delete => rfl
  | status => rfl
  | getspi => rw [hstate] at h; cases h
  | stale => rw [hstate] at h; cases h
  | deleteHalf => rw [hstate] at h; cases h
  | rekeyed => rw [hstate] at h; cases h

/-- a handler that is called without authentication ignores the REPLY, but for `status2` -/
theorem replyHandler_unauthenticated {handler : Transaction Ctx → ReplyOutcome Ctx}
    (hhandler : replyHandler env kh.state = some handler) (hauth : kh'.authContext = none) :
    handler kh' = if kh.state = .status then .released else .ignored kh'.release := by
  unfold replyHandler at hhandler
  cases hstate : kh.state with
  | getspi => rw [hstate] at hhandler; cases hhandler
  | stale => rw [hstate] at hhandler; cases hhandler
  | deleteHalf => rw [hstate] at hhandler; cases hhandler
  | rekeyed => rw [hstate] at hhandler; cases hhandler
  | create =>
    rw [hstate] at hhandler
    cases hhandler
    unfold initiate4
    rw [hauth]
    rfl
  | aging =>
    rw [hstate] at hhandler
    cases hhandler
    unfold retransAck
    rw [hauth]
    rfl
  | delete =>
    rw [hstate] at hhandler
    cases hhandler
    unfold delete2
    rw [hauth]
    rfl
  | status =>
    rw [hstate] at hhandler
    cases hhandler
    rfl

/-- whether a REPLY that decodes is bare -/
theorem bare_iff_decoded (hxid : be32 m.octets 8 = kh.decoded.xid) {ok : Bool} {decoded : Decoded}
    (hout : (kinkDecodeGeneric m kh.decoded).outcome = .done (ok, decoded)) :
    Bare kh m ↔ ok = true ∧ decoded.payloads.apRep = none ∧ decoded.payloads.encrypt = none ∧
      decoded.payloads.krbError = none ∧ decoded.payloads.error.all kinkErrorOk = true := by
  constructor
  · rintro ⟨_, decoded', hdone, h⟩
    cases hout.symm.trans hdone
    exact ⟨rfl, h⟩
  · rintro ⟨rfl, h⟩
    exact ⟨hxid, decoded, hout, h⟩

theorem readKrbApRep_scratch (env : Env Ctx) (kh : Transaction Ctx) (apRep : Bytes) :
    ∃ recvEpoch authContext, (readKrbApRep env kh apRep).2 =
      { kh with recvEpoch := recvEpoch, authContext := authContext } := by
  unfold readKrbApRep
  split
  · exact ⟨_, _, rfl⟩
  · dsimp only
    split
    · exact ⟨_, _, rfl⟩
    · exact ⟨_, _, rfl⟩

/-- the AP_REP of a REPLY that is not genuine does not verify, or else the checksum does not -/
theorem readKrbApRep_forged (hforged : ¬ Genuine env kh m)
    (hxid : be32 m.octets 8 = kh.decoded.xid) {decoded : Decoded}
    (hout : (kinkDecodeGeneric m kh.decoded).outcome = .done (true, decoded)) {apRep : Bytes}
    (hrep : decoded.payloads.apRep = some apRep) (hread : readKrbApRep env kh' apRep = (true, kh''))
    (hctxs : kh'.vAuthContexts = kh.vAuthContexts) : checksumOk env m kh'' = false := by
  unfold readKrbApRep at hread
  split at hread
  · cases hread
  next hlen =>
  dsimp only at hread
  rw [hctxs] at hread
  cases hfind : kh.vAuthContexts.reverse.find? fun ctx => env.checkApRep ctx (apRep.drop 4) with
  | none =>
    rw [hfind] at hread
    cases hread
  | some ctx =>
    rw [hfind] at hread
    cases hread
    have hverified := List.find?_some hfind
    rw [← Bool.not_eq_true]
    intro hok
    refine hforged ⟨hxid, decoded, apRep, ctx, hout, hrep, Nat.le_of_not_lt hlen,
      List.mem_reverse.mp (List.mem_of_find?_eq_some hfind), hverified, ?_⟩
    unfold checksumOk at hok
    dsimp only [Option.map_some] at hok
    split at hok
    · next hdone => rw [hdone, hok]
    · cases hok

/-- a REPLY that is not genuine changes nothing but scratch values; a bare one for a STATUS
transaction releases it -/
theorem handleReply_forged (hrest : kh.state.replies = true → AtRest kh) (hm : headerSize ≤ m.size)
    (hforged : ¬ Genuine env kh m) :
    (kh.state = .status ∧ Bare kh m ∧ handleReply env kh m = .released) ∨
    (¬ (kh.state = .status ∧ Bare kh m) ∧ ∃ kh', handleReply env kh m = .ignored kh' ∧
      Scratch kh kh' ∧ (replyHandler env kh.state = none → kh' = kh)) := by
  unfold handleReply
  by_cases hxid : be32 m.octets 8 = kh.decoded.xid
  swap
  · rw [if_pos hxid]
    exact .inr ⟨fun h => hxid h.2.1, kh, rfl, .refl kh, fun _ => rfl⟩
  rw [if_neg (not_not.mpr hxid)]
  cases hhandler : replyHandler env kh.state with
  | none =>
    refine .inr ⟨fun h => ?_, kh, rfl, .refl kh, fun _ => rfl⟩
    rw [h.1] at hhandler
    cases hhandler
  | some handler =>
    have hrest := hrest (replyHandler_replies hhandler)
    have hnone : ¬ some handler = none := fun h => nomatch h
    have hgives := kinkDecodeGeneric_gives hm kh.decoded
    cases hout : (kinkDecodeGeneric m kh.decoded).outcome with
    | stuck => exact absurd hout hgives.1
    | fail =>
      have hbare : ¬ Bare kh m := by
        rintro ⟨_, decoded, hdone, _⟩
        exact absurd (hout.symm.trans hdone) (fun h => nomatch h)
      exact .inr ⟨fun h => hbare h.2, _, rfl,
        scratch_release hrest rfl rfl kh.recvEpoch kh.authContext, fun h => absurd h hnone⟩
    | done r =>
      obtain ⟨ok, decoded⟩ := r
      obtain ⟨hx, henc⟩ := hgives.2 _ hout
      have hscratch := scratch_release hrest (hx.trans hxid) henc
      have hbare := bare_iff_decoded hxid hout
      dsimp only
      cases ok with
      | false =>
        rw [if_pos rfl]
        exact .inr ⟨fun h => (nomatch (hbare.mp h.2).1), _, rfl,
          hscratch kh.recvEpoch kh.authContext, fun h => absurd h hnone⟩
      | true =>
        rw [if_neg (by decide)]
        cases hrep : decoded.payloads.apRep with
        | none =>
          dsimp only
          rw [handleEncrypt_unauthenticated rfl hrep, replyHandler_unauthenticated hhandler rfl]
          rw [hbare]
          by_cases hplain : decoded.payloads.encrypt = none ∧ decoded.payloads.krbError = none ∧
            decoded.payloads.error.all kinkErrorOk = true
          · rw [if_pos hplain]
            by_cases hstate : kh.state = .status
            · rw [if_pos hstate]
              exact .inl ⟨hstate, ⟨rfl, hrep, hplain⟩, rfl⟩
            · rw [if_neg hstate]
              exact .inr ⟨fun h => hstate h.1, _, rfl, hscratch kh.recvEpoch none,
                fun h => absurd h hnone⟩
          · rw [if_neg hplain]
            exact .inr ⟨fun h => hplain h.2.2.2, _, rfl, hscratch kh.recvEpoch none,
              fun h => absurd h hnone⟩
        | some apRep =>
          have hnotbare : ¬ (kh.state = .status ∧ Bare kh m) := fun h =>
            absurd (hrep.symm.trans (hbare.mp h.2).2.1) (fun h => nomatch h)
          dsimp only
          obtain ⟨recvEpoch, authContext, hkh₁⟩ := readKrbApRep_scratch env
            { kh with decoded := decoded, authContext := none } apRep
          have hleft := hscratch recvEpoch authContext
          rcases hread : readKrbApRep env { kh with decoded := decoded, authContext := none } apRep
            with ⟨_ | _, kh₁⟩
          · rw [hread] at hkh₁
            subst hkh₁
            exact .inr ⟨hnotbare, _, rfl, hleft, fun h => absurd h hnone⟩
          · have hcksum := readKrbApRep_forged hforged hxid hout hrep hread rfl
            rw [hread] at hkh₁
            subst hkh₁
            dsimp only
            rw [if_pos hcksum]
            exact .inr ⟨hnotbare, _, rfl, hleft, fun h => absurd h hnone⟩

end

/-! ## replies one after the other -/

/-- a transaction between two messages; only one that waits for a REPLY holds no payload -/
structure Waiting (Ctx : Type) where
  kh : Transaction Ctx
  atRest : kh.state.replies = true → AtRest kh

/-- a datagram that `receive` hands to `handle_reply` -/
structure ReplyPacket where
  received : Received
  kept : ¬ received.Dropped
  reply : byteAt received.packet 0 = 3

/-- a reply that is not genuine for the transaction -/
structure ForgedReply (env : Env Ctx) (kh : Transaction Ctx) where
  packet : ReplyPacket
  forged : ¬ Genuine env kh packet.received.memory

namespace ForgedReply

variable {env : Env Ctx} {kh : Transaction Ctx}

def memory (r : ForgedReply env kh) : Memory := r.packet.received.memory

end ForgedReply

/-- forged replies leave the transaction as it was: it is still there in its state, and every genuine
reply is handled as without them -/
def Unharmed (env : Env Ctx) (kh : Transaction Ctx) (forged : List Memory) : Prop :=
  ∃ kh', handleReplies env kh forged = .ignored kh' ∧ kh'.state = kh.state ∧
    ∀ m, Genuine env kh m → handleReply env kh' m = handleReply env kh m

section
variable {env : Env Ctx} {kh : Transaction Ctx}

/-- forged replies in a row: each is ignored, up to a bare one for a STATUS transaction -/
theorem handleReplies_forged (hrest : kh.state.replies = true → AtRest kh) (forged : List Memory) :
    ∀ kh₀, Scratch kh kh₀ → (replyHandler env kh.state = none → kh₀ = kh) →
      (∀ m ∈ forged, headerSize ≤ m.size ∧ ¬ Genuine env kh m) →
      ((kh.state = .status ∧ ∃ m ∈ forged, Bare kh m) ∧
        handleReplies env kh₀ forged = .released) ∨
      (¬ (kh.state = .status ∧ ∃ m ∈ forged, Bare kh m) ∧
        ∃ kh', handleReplies env kh₀ forged = .ignored kh' ∧ Scratch kh kh' ∧
          (replyHandler env kh.state = none → kh' = kh)) := by
  induction forged with
  | nil =>
    intro kh₀ hscratch hsame _
    refine .inr ⟨?_, kh₀, rfl, hscratch, hsame⟩
    rintro ⟨_, m, hm, _⟩
    cases hm
  | cons m rest ih =>
    intro kh₀ hscratch hsame hforged
    obtain ⟨⟨hm, hnot⟩, hlater⟩ := List.forall_mem_cons.mp hforged
    have hrest₀ : kh₀.state.replies = true → AtRest kh₀ := by
      rw [hscratch.state_eq]
      exact fun h => hscratch.atRest (hrest h)
    have hone := handleReply_forged hrest₀ hm (fun h => hnot (hscratch.genuine_iff.mp h))
    rw [hscratch.state_eq, hscratch.bare_iff] at hone
    unfold handleReplies
    rcases hone with ⟨hstate, hbare, hout⟩ | ⟨hnotbare, kh₁, hout, hscratch₁, hsame₁⟩
    · rw [hout]
      exact .inl ⟨⟨hstate, m, List.mem_cons_self, hbare⟩, rfl⟩
    · rw [hout]
      have hrest' := ih kh₁ (hscratch.trans hscratch₁)
        (fun h => (hsame₁ h).trans (hsame h)) hlater
      have hiff : (kh.state = .status ∧ ∃ m' ∈ m :: rest, Bare kh m') ↔
          (kh.state = .status ∧ ∃ m' ∈ rest, Bare kh m') := by
        constructor
        · rintro ⟨hstate, m', hm', hbare⟩
          rcases List.mem_cons.mp hm' with rfl | hm'
          · exact absurd ⟨hstate, hbare⟩ hnotbare
          · exact ⟨hstate, m', hm', hbare⟩
        · rintro ⟨hstate, m', hm', hbare⟩
          exact ⟨hstate, m', List.mem_cons_of_mem _ hm', hbare⟩
      rw [hiff]
      exact hrest'

end

/-- forged replies leave a transaction as it was exactly when it is no STATUS transaction or none of
them comes to the reply handler -/
theorem forged_replies_unharmed_iff (env : Env Ctx) (w : Waiting Ctx)
    (forged : List (ForgedReply env w.kh)) :
    Unharmed env w.kh (forged.map (·.memory)) ↔
      (w.kh.state = .status → ∀ r ∈ forged, ¬ Bare w.kh r.memory) := by
  have hforged : ∀ m ∈ forged.map (·.memory), headerSize ≤ m.size ∧ ¬ Genuine env w.kh m := by
    intro m hm
    obtain ⟨r, _, rfl⟩ := List.mem_map.mp hm
    exact ⟨Nat.le_of_not_lt r.packet.kept, r.forged⟩
  have hiff : (w.kh.state = .status → ∀ r ∈ forged, ¬ Bare w.kh r.memory) ↔
      ¬ (w.kh.state = .status ∧ ∃ m ∈ forged.map (·.memory), Bare w.kh m) := by
    simp only [List.mem_map, exists_exists_and_eq_and, not_and, not_exists]
  rw [hiff]
  rcases handleReplies_forged w.atRest _ w.kh (.refl _) (fun _ => rfl) hforged with
    ⟨hbare, hout⟩ | ⟨hnotbare, kh', hout, hscratch, hsame⟩
  · refine ⟨?_, fun h => absurd hbare h⟩
    rintro ⟨kh', hignored, _⟩
    rw [hout] at hignored
    cases hignored
  · refine ⟨fun _ => hnotbare, fun _ => ⟨kh', hout, hscratch.state_eq, fun m hm => ?_⟩⟩
    by_cases hhandler : replyHandler env w.kh.state = none
    · rw [hsame hhandler]
    · exact hscratch.handleReply_eq hm hhandler

/-- no AP_REP verifies -/
def strangers : Env Unit where
  checkApRep _ _ := false
  verifyCksum _ _ _ := false
  decrypt _ _ := none
  readError _ := none
  dpdRefreshPeer _ := none
  quickI2recv _ := none
  install _ := false
  reinitiate _ := none

/-- a STATUS transaction -/
def statusSent : Waiting Unit where
  kh := ⟨.status, ⟨1, 0, 0, releasePayloads, ⟨false, false, false⟩⟩, none, [()], 0, 0, false, false,
    true, 0, none, 0⟩
  atRest _ := rfl

/-- a header and nothing else -/
def bareReply : ForgedReply strangers statusSent.kh where
  packet :=
    { received :=
        { datagram := [3, 0x10, 0, 16, 0, 0, 0, 1, 0, 0, 0, 1, 0, 0, 0, 0]
          packet := [3, 0x10, 0, 16, 0, 0, 0, 1, 0, 0, 0, 1, 0, 0, 0, 0]
          accepted := by decide
          beyond := fun _ => 0 }
      kept := by unfold Received.Dropped; decide
      reply := by decide }
  forged := by
    rintro ⟨_, _, _, _, _, _, _, _, hverified, _⟩
    cases hverified

/-- a bare REPLY from anyone releases a STATUS transaction -/
theorem status_released :
    handleReply strangers statusSent.kh bareReply.memory = .released
    ∧ ¬ Unharmed strangers statusSent.kh [bareReply.memory] := by
  have hdone : (kinkDecodeGeneric bareReply.memory statusSent.kh.decoded).outcome =
      .done (true, statusSent.kh.decoded) := by decide +kernel
  have hbare : Bare statusSent.kh bareReply.memory := ⟨by decide, _, hdone, rfl, rfl, rfl, rfl⟩
  have hout : handleReply strangers statusSent.kh bareReply.memory = .released := by
    rcases handleReply_forged statusSent.atRest
      (Nat.le_of_not_lt bareReply.packet.kept) bareReply.forged with
      ⟨_, _, hout⟩ | ⟨hnot, _⟩
    · exact hout
    · exact absurd ⟨rfl, hbare⟩ hnot
  refine ⟨hout, ?_⟩
  rintro ⟨kh', h, _⟩
  unfold handleReplies at h
  rw [hout] at h
  cases h

end Kink
