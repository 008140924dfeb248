import Racoon2.Kinkd.PayloadChain

/-!
# What the decoder makes of the messages of the encoder

* `Command`, `apPart`, `lastPart`: the messages, and their payloads;
* `Sealing`                      an encryption and a checksum that the other side can undo;
* `RoundTrip`                    the lengths and the checksum are right, and the other side reads what was sent;
* `message_round_trip_iff`       which messages do.
-/

set_option linter.unusedVariables false

namespace Kink
open Bytes

variable {Ctx : Type}

/-! ## messages -/

/-- the messages that the encode functions make -/
inductive Command where
  | create
  | delete
  | ack
  | status
  | reply
  | replyKinkError
  | replyKrbError
  deriving DecidableEq, Repr

section
variable (crypt : Seal Ctx) (kh : Outgoing Ctx)

def encode : Command → Except Stop Bytes
  | .create => kinkEncodeCreate crypt kh
  | .delete => kinkEncodeDelete crypt kh
  | .ack => kinkEncodeAck crypt kh
  | .status => kinkEncodeStatus crypt kh
  | .reply => kinkEncodeReply crypt kh
  | .replyKinkError => kinkEncodeReplyKinkError crypt kh
  | .replyKrbError => kinkEncodeReplyKrbError crypt kh

def apReqBody : Option Bytes := kh.krbApReq.map fun apReq => enc32 kh.epoch ++ apReq

def apRepBody : Option Bytes := kh.krbApRep.map fun apRep => enc32 kh.epoch ++ apRep

def isakmpBody : Option Bytes := kh.inIsakmp.map fun inIsakmp => [kh.isakmp1sttype, 0x10, 0, 0] ++ inIsakmp

/-- the payload in front -/
def apPart : Command → Option TypedBody
  | .create | .delete | .ack | .status => (apReqBody kh).map fun body => (1, body)
  | .reply | .replyKinkError => (apRepBody kh).map fun body => (2, body)
  | .replyKrbError => if kh.authContext.isSome then (apRepBody kh).map fun body => (2, body) else none

/-- the other payload -/
def lastPart : Command → Option TypedBody
  | .create | .delete | .reply => (isakmpBody kh).map fun body => (6, body)
  | .ack => none
  | .status => if kh.isakmp.isSome then (isakmpBody kh).map fun body => (6, body) else none
  | .replyKinkError => some (8, enc32 kh.errorCode)
  | .replyKrbError => (crypt.makeError kh.authContext).map fun body => (3, body)

/-- whether there is a checksum -/
def hasCksum : Command → Bool
  | .replyKinkError | .replyKrbError => kh.krbApRep.isSome
  | _ => true

/-- every message is one of an AP_REQ or AP_REP and another payload -/
theorem encode_parts {cmd : Command} {b : Bytes} (h : encode crypt kh cmd = .ok b) :
    ∃ msgtype, encodeWith crypt kh msgtype (hasCksum kh cmd) (apPart kh cmd) (lastPart crypt kh cmd) = .ok b := by
  obtain ⟨xid, flags, epoch, ctx, apReq, apRep, isakmp, inIsakmp, first, code, hxid, hflags⟩ := kh
  cases cmd with
  | create =>
    obtain ⟨ap, hap, h⟩ := except_bind_ok h
    obtain ⟨last, hlast, h⟩ := except_bind_ok h
    rcases apReq with _ | apReq
    · cases hap
    · rcases inIsakmp with _ | inIsakmp
      · cases hlast
      · rw [← Except.ok.inj hap, ← Except.ok.inj hlast] at h
        exact ⟨1, h⟩
  | delete =>
    obtain ⟨ap, hap, h⟩ := except_bind_ok h
    obtain ⟨last, hlast, h⟩ := except_bind_ok h
    rcases apReq with _ | apReq
    · cases hap
    · rcases inIsakmp with _ | inIsakmp
      · cases hlast
      · rw [← Except.ok.inj hap, ← Except.ok.inj hlast] at h
        exact ⟨2, h⟩
  | ack =>
    obtain ⟨ap, hap, h⟩ := except_bind_ok h
    rcases apReq with _ | apReq
    · cases hap
    · rw [← Except.ok.inj hap] at h
      exact ⟨5, h⟩
  | status =>
    obtain ⟨ap, hap, h⟩ := except_bind_ok h
    rcases apReq with _ | apReq
    · cases hap
    · rw [← Except.ok.inj hap] at h
      rcases isakmp with _ | isakmp
      · exact ⟨6, h⟩
      · obtain ⟨last, hlast, h⟩ := except_bind_ok h
        rcases inIsakmp with _ | inIsakmp
        · cases hlast
        · rw [← Except.ok.inj hlast] at h
          exact ⟨6, h⟩
  | reply =>
    obtain ⟨ap, hap, h⟩ := except_bind_ok h
    rcases apRep with _ | apRep
    · cases hap
    · rw [← Except.ok.inj hap] at h
      rcases inIsakmp with _ | inIsakmp
      · exact ⟨3, h⟩
      · exact ⟨3, h⟩
  | replyKinkError =>
    have h : kinkEncodeReplyKinkError crypt _ = .ok b := h
    unfold kinkEncodeReplyKinkError at h
    split_ifs at h with hcode hap
    · obtain ⟨ap, hap, h⟩ := except_bind_ok h
      rcases apRep with _ | apRep
      · cases hap
      · rw [← Except.ok.inj hap] at h
        exact ⟨3, h⟩
    · rcases apRep with _ | apRep
      · exact ⟨3, h⟩
      · exact absurd rfl hap
  | replyKrbError =>
    have h : kinkEncodeReplyKrbError crypt _ = .ok b := h
    unfold kinkEncodeReplyKrbError at h
    rcases ctx with _ | ctx
    · obtain ⟨last, hlast, h⟩ := except_bind_ok h
      unfold makeKrbError at hlast
      split at hlast
      · cases hlast
      · rename_i krbError hmake
        rw [← Except.ok.inj hlast] at h
        refine ⟨3, ?_⟩
        unfold lastPart
        dsimp only at hmake ⊢
        rw [hmake]
        exact h
    · obtain ⟨ap, hap, h⟩ := except_bind_ok h
      obtain ⟨last, hlast, h⟩ := except_bind_ok h
      rcases apRep with _ | apRep
      · cases hap
      · rw [← Except.ok.inj hap] at h
        unfold makeKrbError at hlast
        split at hlast
        · cases hlast
        · rename_i krbError hmake
          rw [← Except.ok.inj hlast] at h
          refine ⟨3, ?_⟩
          unfold lastPart
          dsimp only at hmake ⊢
          rw [hmake]
          exact h

end

/-! ## the round trip -/

/-- the other side can undo what `Seal` does. The length of a ciphertext depends on that of the plaintext,
and it is not shorter; checksums have one length -/
structure Sealing (env : Env Ctx) (crypt : Seal Ctx) where
  cipherLength : Ctx → Nat → Nat
  cksumLength : Ctx → Nat
  decrypts : ∀ {ctx b enc}, crypt.encrypt ctx b = some enc → ∃ m, env.decrypt ctx enc = some m ∧ m.octets = b
  verifies : ∀ {ctx b cksum}, crypt.calcCksum ctx b = some cksum → env.verifyCksum ctx b cksum = true
  encrypt_length : ∀ {ctx b enc}, crypt.encrypt ctx b = some enc → enc.length = cipherLength ctx b.length
  le_cipherLength : ∀ ctx n, n ≤ cipherLength ctx n
  cksum_length : ∀ {ctx b cksum}, crypt.calcCksum ctx b = some cksum → cksum.length = cksumLength ctx
  cksumLength_pos : ∀ ctx, 0 < cksumLength ctx

/-- the body of a part, if it is of the type -/
def bodyOf (t : UInt8) (part : Option TypedBody) : Option Bytes :=
  part.bind fun data => if data.1 = t then some data.2 else none

/-- a handle that has the bodies that were sent -/
def HasBodies (ap last : Option TypedBody) (d : Decoded) : Prop :=
  d.payloads.apReq = bodyOf 1 ap ∧ d.payloads.apRep = bodyOf 2 ap ∧ d.payloads.krbError = bodyOf 3 last ∧
    d.payloads.isakmp = bodyOf 6 last ∧ d.payloads.error = bodyOf 8 last

section
variable (env : Env Ctx) (crypt : Seal Ctx) (kh : Outgoing Ctx) (ap last : Option TypedBody) (b : Bytes)


/-- the packet is read by a handle at rest: the header and the payloads, the checksum of a packet with an
AP_REQ or AP_REP, and KINK_ENCRYPT -/
def ReadBack (m : Memory) (rkh : Transaction Ctx) : Prop :=
  ∃ d rkh', (kinkDecodeGeneric m rkh.decoded).outcome = .done (true, d) ∧
    d.xid = kh.xid ∧ d.flags = kh.flags ∧
    (d.payloads.apReq ≠ none ∨ d.payloads.apRep ≠ none →
      (kinkDecodeVerifyChecksum m (kh.authContext.map env.verifyCksum)).outcome = .done true) ∧
    kinkDecodeKinkEncrypt env { rkh with decoded := d, authContext := kh.authContext } = some (true, rkh') ∧
    HasBodies ap last rkh'.decoded

/-- the checksum is over all octets in front of it, with the lengths of a message without it -/
def Covered : Prop :=
  be16 b 14 = 0 ∨ ∃ ctx front cksum, kh.authContext = some ctx ∧ b = front ++ cksum ∧
    cksum.length = be16 b 14 ∧
    crypt.calcCksum ctx (put (put front 2 (enc16 front.length)) 14 (enc16 0)) = some cksum

/-- every length field in the message and in KINK_ENCRYPT is right -/
def LengthsTrue : Prop :=
  be16 b 2 = b.length ∧ ∃ outer, Chain b (b.length - be16 b 14) 16 (byteAt b 12).toNat outer ∧
    ∀ data ∈ outer, data.1 = 7 → ∃ ctx body inner, kh.authContext = some ctx ∧
      env.decrypt ctx data.2 = some body ∧
      Chain body.octets body.size 4 (byteAt body.octets 0).toNat inner

/-- the message has the right lengths and a checksum over all of it, and the other side reads the bodies -/
structure RoundTrip : Prop where
  lengths : LengthsTrue env kh b
  covered : Covered crypt kh b
  readBack : ∀ (m : Memory) (rkh : Transaction Ctx), m.octets = b → AtRest rkh →
    ReadBack env kh ap last m rkh

end

section
variable {env : Env Ctx} {crypt : Seal Ctx} {kh : Outgoing Ctx} {msgtype : UInt8} {needCksum : Bool}
  {outer : List TypedBody} {b : Bytes}

/-- a message begins with its header, and its payloads end in front of the checksum -/
theorem Finished.layout (h : Finished crypt kh msgtype needCksum outer b) :
    ∃ cksumLen tail, b = header msgtype b.length kh.xid (firstType outer) (UInt8.ofNat kh.flags) cksumLen
        ++ (chain outer ++ tail) ∧ 16 + (chain outer).length + cksumLen ≤ b.length ∧
      (needCksum = false → cksumLen = 0) := by
  rcases h with ⟨hneed, hb⟩ | ⟨hneed, ctx, cksum, hctx, hcalc, hb⟩
  · have hlen : b.length = 16 + (chain outer).length := by rw [hb, wire_length]
    refine ⟨0, [], ?_, by omega, fun _ => rfl⟩
    rw [List.append_nil, hlen, hb]
    rfl
  · have hup := align_bounds (16 + (chain outer).length)
    have hlen : b.length = align (16 + (chain outer).length) + cksum.length := by
      rw [hb, List.length_append, pad_length, wire_length]
    refine ⟨cksum.length, List.replicate (align (16 + (chain outer).length) - (16 + (chain outer).length)) 0
      ++ cksum, ?_, by omega, fun hno => ?_⟩
    · rw [hlen, hb]
      unfold pad
      rw [wire_length]
      unfold wire
      simp only [List.append_assoc]
    · rw [hneed] at hno
      cases hno

theorem payload_le_chain (outer : List TypedBody) :
    ∀ data ∈ outer, payloadSize + data.2.length ≤ (chain outer).length := by
  induction outer with
  | nil =>
    intro data h
    cases h
  | cons data rest ih =>
    intro x hx
    cases rest with
    | nil =>
      rw [List.mem_singleton.mp hx, chain, payload_length]
      exact Nat.le_refl _
    | cons next rest =>
      have hup := align_bounds (payloadSize + data.2.length)
      rw [chain_cons_length]
      rcases List.mem_cons.mp hx with rfl | hx
      · omega
      · have hle := ih x hx
        omega

/-- the body of KINK_ENCRYPT is a payload in a row of one -/
theorem sealBody_chain (last : TypedBody) (hfit : payloadSize + last.2.length < 65536) :
    Chain (sealBody last) (sealBody last).length 4 last.1.toNat [last] := by
  have hchain := chain_of_encoder [last] (List.forall_mem_singleton.mpr hfit) [last.1, 0, 0, 0] [] (Nat.mod_self 4)
  rw [List.append_nil, ← List.length_append] at hchain
  exact hchain

theorem sealBody_length (last : TypedBody) : (sealBody last).length = 8 + last.2.length := by
  unfold sealBody
  rw [List.length_append, payload_length, List.length_cons, List.length_cons, List.length_cons,
    List.length_cons, List.length_nil]
  omega

variable {ap last : Option TypedBody}

/-- the types of the two parts -/
structure PartTypes (ap last : Option TypedBody) : Prop where
  ap : ∀ data, ap = some data → data.1 = 1 ∨ data.1 = 2
  last : ∀ data, last = some data → data.1 = 3 ∨ data.1 = 6 ∨ data.1 = 8

theorem Outer.known (htypes : PartTypes ap last) (h : Outer crypt kh ap last outer) :
    ∀ data ∈ outer, Known data.1 := by
  have hap : ∀ data, ap = some data → Known data.1 := by
    intro data hdata
    rcases htypes.ap data hdata with ht | ht
    · exact .inl ht
    · exact .inr (.inl ht)
  have hlast : ∀ data, last = some data → Known data.1 := by
    intro data hdata
    rcases htypes.last data hdata with ht | ht | ht
    · exact .inr (.inr (.inl ht))
    · exact .inr (.inr (.inr (.inl ht)))
    · exact .inr (.inr (.inr (.inr (.inr ht))))
  rcases ap with _ | ap <;> rcases last with _ | last
  · rw [show outer = [] from h]
    intro data hdata
    cases hdata
  · rw [show outer = [last] from h]
    exact List.forall_mem_singleton.mpr (hlast last rfl)
  · rw [show outer = [ap] from h]
    exact List.forall_mem_singleton.mpr (hap ap rfl)
  · obtain ⟨ctx, enc, -, -, rfl⟩ := h
    refine List.forall_mem_cons.mpr ⟨hap ap rfl, List.forall_mem_singleton.mpr ?_⟩
    exact .inr (.inr (.inr (.inr (.inl rfl))))

/-- a KINK_ENCRYPT is the encrypted other part -/
theorem Outer.encrypted (htypes : PartTypes ap last) (h : Outer crypt kh ap last outer) {data : TypedBody}
    (hdata : data ∈ outer) (hseven : data.1 = 7) :
    ∃ ctx x, kh.authContext = some ctx ∧ last = some x ∧ crypt.encrypt ctx (sealBody x) = some data.2 := by
  have hap : ∀ x, ap = some x → x.1 ≠ 7 := by
    intro x hx hc
    rcases htypes.ap x hx with ht | ht <;> rw [ht] at hc <;> exact absurd hc (by decide)
  have hlast : ∀ x, last = some x → x.1 ≠ 7 := by
    intro x hx hc
    rcases htypes.last x hx with ht | ht | ht <;> rw [ht] at hc <;> exact absurd hc (by decide)
  rcases ap with _ | ap <;> rcases last with _ | last
  · rw [show outer = [] from h] at hdata
    cases hdata
  · rw [show outer = [last] from h] at hdata
    rw [List.mem_singleton.mp hdata] at hseven
    exact absurd hseven (hlast last rfl)
  · rw [show outer = [ap] from h] at hdata
    rw [List.mem_singleton.mp hdata] at hseven
    exact absurd hseven (hap ap rfl)
  · obtain ⟨ctx, enc, hctx, henc, rfl⟩ := h
    rcases List.mem_cons.mp hdata with rfl | hdata
    · exact absurd hseven (hap _ rfl)
    · rw [List.mem_singleton.mp hdata]
      exact ⟨ctx, last, hctx, rfl, henc⟩

/-- `kink_decode_kink_encrypt` with another walk in it: a walk over octets that are not known is not to be
run -/
def openedBy (walk : Memory → Decoded → Walk (Bool × Decoded)) (env : Env Ctx) (rkh : Transaction Ctx) :
    Option (Bool × Transaction Ctx) :=
  match rkh.decoded.payloads.encrypt, rkh.authContext with
  | none, _ => some (true, rkh)
  | some _, none => some (false, rkh)
  | some encrypt, some ctx =>
    match env.decrypt ctx encrypt with
    | none => some (false, rkh)
    | some body =>
      match (walk body rkh.decoded).outcome with
      | .stuck => none
      | .fail => some (false, rkh)
      | .done (ok, decoded) => some (ok, { rkh with decoded := decoded })

theorem openedBy_done {rkh : Transaction Ctx} {ctx : Ctx} {enc : Bytes} {body : Memory} {d : Decoded}
    (walk : Memory → Decoded → Walk (Bool × Decoded)) (henc : rkh.decoded.payloads.encrypt = some enc)
    (hctx : rkh.authContext = some ctx) (hdec : env.decrypt ctx enc = some body)
    (hwalk : (walk body rkh.decoded).outcome = .done (true, d)) :
    openedBy walk env rkh = some (true, { rkh with decoded := d }) := by
  unfold openedBy
  rw [henc, hctx]
  dsimp only
  rw [hdec]
  dsimp only
  rw [hwalk]

variable (hseal : Sealing env crypt)
include hseal

/-- a KINK_ENCRYPT that fits in a length field holds a payload that does -/
theorem Sealing.inner_fits {ctx : Ctx} {x : TypedBody} {enc : Bytes}
    (henc : crypt.encrypt ctx (sealBody x) = some enc) (hfit : payloadSize + enc.length < 65536) :
    payloadSize + x.2.length < 65536 := by
  have hsize : payloadSize = 4 := rfl
  have hgrow := hseal.le_cipherLength ctx (sealBody x).length
  rw [← hseal.encrypt_length henc, sealBody_length] at hgrow
  omega

theorem lengthsTrue_of_finished (htypes : PartTypes ap last) (houter : Outer crypt kh ap last outer)
    (h : Finished crypt kh msgtype needCksum outer b) (hlen : b.length ≤ 65535) : LengthsTrue env kh b := by
  obtain ⟨cksumLen, tail, hb, hroom, -⟩ := h.layout
  have hfit : ∀ data ∈ outer, payloadSize + data.2.length < 65536 := by
    intro data hdata
    have hle := payload_le_chain outer data hdata
    omega
  obtain ⟨hlength, hcksum, -, -⟩ := header_fields msgtype (firstType outer) (UInt8.ofNat kh.flags)
    (chain outer ++ tail) kh.xid_lt (Nat.lt_succ_of_le hlen) (show cksumLen < 65536 by omega)
  have hchain := chain_of_encoder outer hfit
    (header msgtype b.length kh.xid (firstType outer) (UInt8.ofNat kh.flags) cksumLen) tail
    (by rw [header_length])
  have hfirst : byteAt (header msgtype b.length kh.xid (firstType outer) (UInt8.ofNat kh.flags) cksumLen
      ++ (chain outer ++ tail)) 12 = firstType outer := rfl
  rw [← hb] at hlength hcksum hchain hfirst
  rw [header_length] at hchain
  refine ⟨hlength, outer, ?_, fun data hdata hseven => ?_⟩
  · rw [hcksum, hfirst]
    exact hchain.mono (by omega)
  · obtain ⟨ctx, x, hctx, -, henc⟩ := houter.encrypted htypes hdata hseven
    obtain ⟨body, hdec, hbody⟩ := hseal.decrypts henc
    refine ⟨ctx, body, [x], hctx, hdec, ?_⟩
    have hinner := sealBody_chain x (hseal.inner_fits henc (hfit data hdata))
    have hsize : body.size = (sealBody x).length := congrArg List.length hbody
    rw [hbody, hsize]
    exact hinner

omit hseal in
theorem covered_of_finished (h : Finished crypt kh msgtype needCksum outer b) (hlen : b.length ≤ 65535) :
    Covered crypt kh b := by
  rcases h with ⟨hneed, hb⟩ | ⟨hneed, ctx, cksum, hctx, hcalc, hb⟩
  · left
    rw [hb]
    exact be16_enc16 (by decide) []
  · right
    have hsize : b.length = align (16 + (chain outer).length) + cksum.length := by
      rw [hb, List.length_append, pad_length, wire_length]
    refine ⟨ctx, _, cksum, hctx, hb, ?_, ?_⟩
    · rw [hb]
      exact (be16_enc16 (show cksum.length < 65536 by omega) []).symm
    · rw [pad_length, wire_length]
      rw [put_wire_length, put_wire_cksumLen]
      exact hcalc

omit hseal in
/-- the parts in front of KINK_ENCRYPT, read by a handle at rest -/
theorem keep_ap {data : TypedBody} (ht : data.1 = 1 ∨ data.1 = 2) {d : Decoded}
    (hrest : d.payloads = releasePayloads) :
    HasBodies (some data) none (keep false d data) ∧ (keep false d data).payloads.encrypt = none ∧
      (keep false d data).xid = d.xid ∧ (keep false d data).flags = d.flags := by
  obtain ⟨t, body⟩ := data
  obtain ⟨xid, flags, code, payloads, encrypted⟩ := d
  subst hrest
  rcases ht with rfl | rfl
  · exact ⟨⟨rfl, rfl, rfl, rfl, rfl⟩, rfl, rfl, rfl⟩
  · exact ⟨⟨rfl, rfl, rfl, rfl, rfl⟩, rfl, rfl, rfl⟩

omit hseal in
/-- the other part, read behind the first -/
theorem keep_last {data : TypedBody} (ht : data.1 = 3 ∨ data.1 = 6 ∨ data.1 = 8) {d : Decoded}
    (h : HasBodies ap none d) (inEncrypt : Bool) :
    HasBodies ap (some data) (keep inEncrypt d data) ∧
      (keep inEncrypt d data).payloads.encrypt = d.payloads.encrypt ∧
      (keep inEncrypt d data).xid = d.xid ∧ (keep inEncrypt d data).flags = d.flags := by
  obtain ⟨t, body⟩ := data
  obtain ⟨xid, flags, code, ⟨apReq, apRep, krbError, isakmp, encrypt, error⟩, encrypted⟩ := d
  obtain ⟨hreq, hrep, hkrb, hisakmp, herror⟩ := h
  have hkrb : krbError = none := hkrb
  have hisakmp : isakmp = none := hisakmp
  have herror : error = none := herror
  subst hkrb hisakmp herror
  rcases ht with rfl | rfl | rfl
  · exact ⟨⟨hreq, hrep, rfl, rfl, rfl⟩, rfl, rfl, rfl⟩
  · exact ⟨⟨hreq, hrep, rfl, rfl, rfl⟩, rfl, rfl, rfl⟩
  · exact ⟨⟨hreq, hrep, rfl, rfl, rfl⟩, rfl, rfl, rfl⟩

omit hseal in
theorem hasBodies_rest {d : Decoded} (hrest : d.payloads = releasePayloads) : HasBodies none none d := by
  unfold HasBodies
  rw [hrest]
  exact ⟨rfl, rfl, rfl, rfl, rfl⟩

omit hseal in
/-- a KINK_ENCRYPT, read behind the first part -/
theorem keep_encrypt (d : Decoded) (enc : Bytes) (h : HasBodies ap last d) (hnone : d.payloads.encrypt = none) :
    HasBodies ap last (keep false d (7, enc)) ∧ (keep false d (7, enc)).payloads.encrypt = some enc ∧
      (keep false d (7, enc)).xid = d.xid ∧ (keep false d (7, enc)).flags = d.flags := by
  have hkeep : keep false d (7, enc) =
      { d with payloads := { d.payloads with encrypt := orElse d.payloads.encrypt enc } } := rfl
  rw [hkeep, hnone]
  exact ⟨h, rfl, rfl, rfl⟩

omit hseal in
theorem kinkDecodeKinkEncrypt_done {rkh : Transaction Ctx} {ctx : Ctx} {enc : Bytes} {body : Memory} {d : Decoded}
    (henc : rkh.decoded.payloads.encrypt = some enc) (hctx : rkh.authContext = some ctx)
    (hdec : env.decrypt ctx enc = some body)
    (hwalk : (decodeEncrypted body rkh.decoded).outcome = .done (true, d)) :
    kinkDecodeKinkEncrypt env rkh = some (true, { rkh with decoded := d }) :=
  openedBy_done decodeEncrypted henc hctx hdec hwalk

omit hseal in
theorem kinkDecodeKinkEncrypt_none {rkh : Transaction Ctx} (henc : rkh.decoded.payloads.encrypt = none) :
    kinkDecodeKinkEncrypt env rkh = some (true, rkh) := by
  unfold kinkDecodeKinkEncrypt
  rw [henc]

/-- the first part with a KINK_ENCRYPT behind it, read and decrypted -/
theorem readBack_sealed {x y : TypedBody} {ctx : Ctx} {enc : Bytes} (hx : x.1 = 1 ∨ x.1 = 2)
    (hy : y.1 = 3 ∨ y.1 = 6 ∨ y.1 = 8)
    (henc : crypt.encrypt ctx (sealBody y) = some enc) (hfit : payloadSize + enc.length < 65536)
    {d : Decoded} (hrest : d.payloads = releasePayloads) (rkh : Transaction Ctx)
    (hdecoded : rkh.decoded = [x, (7, enc)].foldl (keep false) d) (hauth : rkh.authContext = some ctx) :
    ∃ rkh', kinkDecodeKinkEncrypt env rkh = some (true, rkh') ∧ HasBodies (some x) (some y) rkh'.decoded := by
  obtain ⟨body, hdec, hbody⟩ := hseal.decrypts henc
  obtain ⟨hbodies, hnone, -, -⟩ := keep_ap hx hrest
  obtain ⟨hseven, hkeep, -, -⟩ := keep_encrypt (keep false d x) enc hbodies hnone
  generalize hd : keep false (keep false d x) (7, enc) = d' at hseven hkeep
  have hsize : body.size = 8 + y.2.length := by
    show body.octets.length = _
    rw [hbody, sealBody_length]
  have hinner := sealBody_chain y (hseal.inner_fits henc hfit)
  rw [← hbody] at hinner
  have hfirst : byteAt body.octets 0 = y.1 := by
    rw [hbody]
    rfl
  have hmem : body.size < 2 ^ 64 := body.octets_length
  have hread : (Walk.read body 0).outcome = .done y.1 := by
    rw [← hfirst]
    exact (Walk.Returns.read (by omega)).done
  have hwalk : (decodeEncrypted body d').outcome =
      .done (true, keep true d' y) := by
    have hknown : Known y.1 := by
      rcases hy with ht | ht | ht
      · exact .inr (.inr (.inl ht))
      · exact .inr (.inr (.inr (.inl ht)))
      · exact .inr (.inr (.inr (.inr (.inr ht))))
    have hencrypt : encryptSize = 4 := rfl
    have hstop : body.octets.length = body.size := rfl
    unfold decodeEncrypted
    rw [outcome_bind hread, outcome_bind (sub_outcome hmem (by omega))]
    have htake := kinkDecodePayloadList_chain true hinner (List.forall_mem_singleton.mpr hknown)
      (Nat.le_of_eq hstop) (body.size - encryptSize + 1) d' (body.size - encryptSize) 0 (by omega)
      (Nat.zero_le _) (by rw [List.length_singleton]; omega)
    rw [List.foldl_cons, List.foldl_nil] at htake
    exact htake
  rw [List.foldl_cons, List.foldl_cons, List.foldl_nil, hd] at hdecoded
  rw [← hdecoded] at hkeep hwalk
  refine ⟨_, kinkDecodeKinkEncrypt_done hkeep hauth hdec hwalk, ?_⟩
  rw [← hdecoded] at hseven
  exact (keep_last hy hseven true).1

/-- what a handle at rest has after `kink_decode_generic`, and after KINK_ENCRYPT -/
theorem readBack_parts (htypes : PartTypes ap last) (houter : Outer crypt kh ap last outer)
    (hfit : ∀ data ∈ outer, payloadSize + data.2.length < 65536) {d : Decoded}
    (hrest : d.payloads = releasePayloads) (rkh : Transaction Ctx)
    (hdecoded : rkh.decoded = outer.foldl (keep false) d) (hauth : rkh.authContext = kh.authContext) :
    rkh.decoded.xid = d.xid ∧ rkh.decoded.flags = d.flags ∧ rkh.decoded.payloads.apReq = bodyOf 1 ap ∧
      rkh.decoded.payloads.apRep = bodyOf 2 ap ∧
      ∃ rkh', kinkDecodeKinkEncrypt env rkh = some (true, rkh') ∧ HasBodies ap last rkh'.decoded := by
  have hnone : d.payloads.encrypt = none := by
    rw [hrest]
    rfl
  rcases ap with _ | ap <;> rcases last with _ | last
  · have houter : outer = [] := houter
    subst houter
    rw [List.foldl_nil] at hdecoded
    have hbodies := hasBodies_rest hrest
    rw [hdecoded]
    refine ⟨rfl, rfl, hbodies.1, hbodies.2.1, rkh, kinkDecodeKinkEncrypt_none (by rw [hdecoded, hnone]), ?_⟩
    rw [hdecoded]
    exact hbodies
  · have houter : outer = [last] := houter
    subst houter
    obtain ⟨hbodies, hsame, hxid, hflags⟩ := keep_last (htypes.last last rfl) (hasBodies_rest hrest) false
    rw [List.foldl_cons, List.foldl_nil] at hdecoded
    rw [hdecoded]
    refine ⟨hxid, hflags, hbodies.1, hbodies.2.1, rkh,
      kinkDecodeKinkEncrypt_none (by rw [hdecoded, hsame, hnone]), ?_⟩
    rw [hdecoded]
    exact hbodies
  · have houter : outer = [ap] := houter
    subst houter
    obtain ⟨hbodies, hempty, hxid, hflags⟩ := keep_ap (htypes.ap ap rfl) hrest
    rw [List.foldl_cons, List.foldl_nil] at hdecoded
    rw [hdecoded]
    refine ⟨hxid, hflags, hbodies.1, hbodies.2.1, rkh,
      kinkDecodeKinkEncrypt_none (by rw [hdecoded, hempty]), ?_⟩
    rw [hdecoded]
    exact hbodies
  · obtain ⟨ctx, enc, hctx, henc, rfl⟩ := houter
    obtain ⟨hbodies, hempty, hxid, hflags⟩ := keep_ap (htypes.ap ap rfl) hrest
    obtain ⟨hbodies', -, hxid', hflags'⟩ := keep_encrypt (keep false d ap) enc hbodies hempty
    have hseal := readBack_sealed hseal (htypes.ap ap rfl) (htypes.last last rfl) henc
      (hfit (7, enc) (List.mem_cons_of_mem _ List.mem_cons_self)) hrest rkh hdecoded (hauth.trans hctx)
    rw [List.foldl_cons, List.foldl_cons, List.foldl_nil] at hdecoded
    refine ⟨?_, ?_, ?_, ?_, hseal⟩
    · rw [hdecoded, hxid', hxid]
    · rw [hdecoded, hflags', hflags]
    · rw [hdecoded, hbodies'.1]
    · rw [hdecoded, hbodies'.2.1]

/-- the checksum of a message is verified -/
theorem verified_of_finished (h : Finished crypt kh msgtype true outer b) (hlen : b.length ≤ 65535)
    (m : Memory) (hm : m.octets = b) :
    (kinkDecodeVerifyChecksum m (kh.authContext.map env.verifyCksum)).outcome = .done true := by
  rcases h with ⟨hneed, -⟩ | ⟨-, ctx, cksum, hctx, hcalc, hb⟩
  · cases hneed
  · have hsize : b.length = align (16 + (chain outer).length) + cksum.length := by
      rw [hb, List.length_append, pad_length, wire_length]
    have hpos : 0 < cksum.length := by
      rw [hseal.cksum_length hcalc]
      exact hseal.cksumLength_pos ctx
    rw [hctx]
    exact kinkDecodeVerifyChecksum_message rfl (hm.trans hb) (by omega) hpos (env.verifyCksum ctx)
      (hseal.verifies hcalc)

/-- a message of at most 65535 octets is read back -/
theorem roundTrip_of_finished (htypes : PartTypes ap last) (houter : Outer crypt kh ap last outer)
    (hneed : ap ≠ none → needCksum = true) (h : Finished crypt kh msgtype needCksum outer b)
    (hlen : b.length ≤ 65535) : RoundTrip env crypt kh ap last b := by
  refine ⟨lengthsTrue_of_finished hseal htypes houter h hlen, covered_of_finished h hlen, ?_⟩
  intro m rkh hm hrest
  obtain ⟨cksumLen, tail, hb, hroom, -⟩ := h.layout
  have hfit : ∀ data ∈ outer, payloadSize + data.2.length < 65536 := by
    intro data hdata
    have hle := payload_le_chain outer data hdata
    omega
  have hcount := length_le_chain outer
  have hchain := chain_of_encoder outer hfit
    (header msgtype b.length kh.xid (firstType outer) (UInt8.ofNat kh.flags) cksumLen) tail
    (by rw [header_length])
  rw [← hb, header_length, ← hm] at hchain
  have hgeneric := kinkDecodeGeneric_message (hm.trans hb) kh.xid_lt (Nat.lt_succ_of_le hlen)
    (congrArg List.length hm) (by omega) (hchain.mono (by omega)) (houter.known htypes) (by omega) rkh.decoded
  rw [UInt8.toNat_ofNat_of_lt' kh.flags_lt] at hgeneric
  obtain ⟨hxid, hflags, hreq, hrep, rkh', hopen, hbodies⟩ := readBack_parts hseal htypes houter hfit
    (d := { rkh.decoded with xid := kh.xid, flags := kh.flags, errorCode := 0 }) hrest
    { rkh with
      decoded := outer.foldl (keep false) { rkh.decoded with xid := kh.xid, flags := kh.flags, errorCode := 0 }
      authContext := kh.authContext } rfl rfl
  refine ⟨_, rkh', hgeneric, hxid, hflags, fun hap => ?_, hopen, hbodies⟩
  have hsome : ap ≠ none := by
    intro hno
    rw [hno] at hreq hrep
    rcases hap with hap | hap
    · exact hap hreq
    · exact hap hrep
  rw [hneed hsome] at h
  exact verified_of_finished hseal h hlen m hm

end

/-! ## every message -/

/-- the octets of a message in front of the padding and the checksum; `cipher` is the length of what octets
are encrypted to -/
def plainLength (cipher : Nat → Nat) (ap last : Option TypedBody) : Nat :=
  match ap, last with
  | none, none => 16
  | some ap, none => 16 + ap.size
  | none, some last => 16 + last.size
  | some ap, some last => 16 + align ap.size + payloadSize + cipher (4 + last.size)

section
variable {env : Env Ctx} {crypt : Seal Ctx} (hseal : Sealing env crypt) (kh : Outgoing Ctx)

/-- the octets of a message, from the lengths of what it is made of -/
def Sealing.wireLength (cmd : Command) : Nat :=
  let plain := plainLength (fun n => (kh.authContext.map fun ctx => hseal.cipherLength ctx n).getD 0)
    (apPart kh cmd) (lastPart crypt kh cmd)
  if hasCksum kh cmd then align plain + (kh.authContext.map hseal.cksumLength).getD 0 else plain

end

theorem partTypes (crypt : Seal Ctx) (kh : Outgoing Ctx) (cmd : Command) :
    PartTypes (apPart kh cmd) (lastPart crypt kh cmd) := by
  have hmap : ∀ (t : UInt8) (body : Option Bytes) (data : TypedBody),
      (body.map fun body => (t, body)) = some data → data.1 = t := by
    intro t body data h
    obtain ⟨x, -, rfl⟩ := Option.map_eq_some_iff.mp h
    rfl
  constructor
  · intro data h
    cases cmd with
    | create => exact .inl (hmap 1 _ data h)
    | delete => exact .inl (hmap 1 _ data h)
    | ack => exact .inl (hmap 1 _ data h)
    | status => exact .inl (hmap 1 _ data h)
    | reply => exact .inr (hmap 2 _ data h)
    | replyKinkError => exact .inr (hmap 2 _ data h)
    | replyKrbError =>
      unfold apPart at h
      split_ifs at h
      exact .inr (hmap 2 _ data h)
  · intro data h
    cases cmd with
    | create => exact .inr (.inl (hmap 6 _ data h))
    | delete => exact .inr (.inl (hmap 6 _ data h))
    | ack => cases h
    | status =>
      unfold lastPart at h
      split_ifs at h
      exact .inr (.inl (hmap 6 _ data h))
    | reply => exact .inr (.inl (hmap 6 _ data h))
    | replyKinkError =>
      rw [← Option.some.inj h]
      exact .inr (.inr rfl)
    | replyKrbError => exact .inl (hmap 3 _ data h)

/-- what begins with an AP_REQ or AP_REP has a checksum -/
theorem hasCksum_of_ap (kh : Outgoing Ctx) (cmd : Command) (h : apPart kh cmd ≠ none) :
    hasCksum kh cmd = true := by
  have hrep : apRepBody kh ≠ none → kh.krbApRep.isSome = true := by
    unfold apRepBody
    cases kh.krbApRep with
    | none => exact fun hc => absurd rfl hc
    | some apRep => exact fun _ => rfl
  cases cmd with
  | replyKinkError =>
    refine hrep fun hno => h ?_
    unfold apPart
    rw [hno]
    rfl
  | replyKrbError =>
    refine hrep fun hno => h ?_
    unfold apPart
    rw [hno]
    split_ifs <;> rfl
  | _ => rfl

section
variable {env : Env Ctx} {crypt : Seal Ctx} {kh : Outgoing Ctx} {cmd : Command} {b : Bytes}

theorem outer_length (hseal : Sealing env crypt) {ap last : Option TypedBody} {outer : List TypedBody}
    (h : Outer crypt kh ap last outer) :
    16 + (chain outer).length =
      plainLength (fun n => (kh.authContext.map fun ctx => hseal.cipherLength ctx n).getD 0) ap last := by
  rcases ap with _ | ap <;> rcases last with _ | last
  · rw [show outer = [] from h]
    rfl
  · rw [show outer = [last] from h, chain, payload_length]
    rfl
  · rw [show outer = [ap] from h, chain, payload_length]
    rfl
  · obtain ⟨ctx, enc, hctx, henc, rfl⟩ := h
    have hcipher := hseal.encrypt_length henc
    have hbody : (sealBody last).length = 4 + last.size := by
      rw [sealBody_length]
      unfold TypedBody.size payloadSize
      omega
    rw [hbody] at hcipher
    rw [chain_cons_length, chain, payload_length]
    unfold plainLength
    rw [hctx]
    show 16 + (align ap.size + (4 + enc.length)) = 16 + align ap.size + 4 + hseal.cipherLength ctx (4 + last.size)
    rw [hcipher]
    omega

theorem finished_length (hseal : Sealing env crypt) {msgtype : UInt8} {outer : List TypedBody}
    (houter : Outer crypt kh (apPart kh cmd) (lastPart crypt kh cmd) outer)
    (h : Finished crypt kh msgtype (hasCksum kh cmd) outer b) : b.length = hseal.wireLength kh cmd := by
  have hplain := outer_length hseal houter
  unfold Sealing.wireLength
  dsimp only
  rw [← hplain]
  rcases h with ⟨hneed, hb⟩ | ⟨hneed, ctx, cksum, hctx, hcalc, hb⟩
  · rw [hneed, hb, wire_length]
    rfl
  · rw [hneed, hb, hctx, List.length_append, pad_length, wire_length, hseal.cksum_length hcalc]
    rfl

end

/-- a message that an encode function returns is read back, with the right lengths and a checksum over all
of it, exactly if it has at most 65535 octets -/
theorem message_round_trip_iff {env : Env Ctx} {crypt : Seal Ctx} (hseal : Sealing env crypt)
    (kh : Outgoing Ctx) (cmd : Command) (b : Bytes) (h : encode crypt kh cmd = .ok b) :
    RoundTrip env crypt kh (apPart kh cmd) (lastPart crypt kh cmd) b ↔ hseal.wireLength kh cmd ≤ 65535 := by
  obtain ⟨msgtype, hencode⟩ := encode_parts crypt kh h
  obtain ⟨outer, houter, hfin⟩ := encodeWith_ok hencode
  rw [← finished_length hseal houter hfin]
  constructor
  · intro hround
    have hfield := be16_lt b 2
    rw [hround.lengths.1] at hfield
    omega
  · intro hlen
    exact roundTrip_of_finished hseal (partTypes crypt kh cmd) houter (hasCksum_of_ap kh cmd) hfin hlen

/-- there is room for a checksum of 24 octets -/
theorem setplFinalize_room (crypt : Seal Ctx) (kh : Outgoing Ctx) {ps : PayloadSetter} {ctx : Ctx}
    (hctx : kh.authContext = some ctx)
    (hcalc : ∀ b, ∃ cksum, crypt.calcCksum ctx b = some cksum ∧ cksum.length ≤ 24)
    (hroom : align ps.octets.length + 24 ≤ ps.size) : ∃ b, setplFinalize crypt kh ps = .ok b := by
  unfold setplFinalize
  by_cases hneed : ps.needCksum = true
  · rw [if_pos hneed, hctx]
    dsimp only
    obtain ⟨cksum, hcksum, hlen⟩ := hcalc (put (pad ps.octets) 2 (enc16 (align ps.octets.length)))
    rw [if_neg (by omega), hcksum]
    dsimp only
    rw [if_neg (by omega)]
    exact ⟨_, rfl⟩
  · rw [if_neg hneed]
    exact ⟨_, rfl⟩

/-- a checksum of 12 octets -/
def sumCksum (b : Bytes) : Bytes := b.foldl (· + ·) 0 :: List.replicate 11 0

/-- octets go as they are, with a checksum that is their sum -/
def plainSeal : Seal Unit where
  encrypt _ b := if b.length < 2 ^ 64 then some b else none
  calcCksum _ b := some (sumCksum b)
  makeError _ := some [0x7e]

def plainEnv : Env Unit where
  checkApRep _ _ := true
  verifyCksum _ b cksum := cksum == sumCksum b
  decrypt _ b := if h : b.length < 2 ^ 64 then some ⟨b, fun _ => 0, h⟩ else none
  readError _ := none
  dpdRefreshPeer kh := some kh.recvEpoch
  quickI2recv _ := some false
  install _ := true
  reinitiate _ := none

def plainSealing : Sealing plainEnv plainSeal where
  cipherLength _ n := n
  cksumLength _ := 12
  decrypts := by
    intro ctx b enc h
    unfold plainSeal at h
    dsimp only at h
    split_ifs at h with hlen
    rw [← Option.some.inj h]
    exact ⟨⟨b, fun _ => 0, hlen⟩, dif_pos hlen, rfl⟩
  verifies := by
    intro ctx b cksum h
    rw [← Option.some.inj h]
    exact beq_self_eq_true (sumCksum b)
  encrypt_length := by
    intro ctx b enc h
    unfold plainSeal at h
    dsimp only at h
    split_ifs at h with hlen
    rw [← Option.some.inj h]
  le_cipherLength := fun _ n => Nat.le_refl n
  cksum_length := by
    intro ctx b cksum h
    rw [← Option.some.inj h]
    rfl
  cksumLength_pos := fun _ => by decide

/-- an initiator with an AP_REQ -/
def sampleOutgoing (apReq : Bytes) : Outgoing Unit where
  xid := 7
  flags := 0
  epoch := 1
  authContext := some ()
  krbApReq := some apReq
  krbApRep := none
  isakmp := none
  inIsakmp := some [0, 0, 0, 8]
  isakmp1sttype := 1
  errorCode := 0
  xid_lt := by decide
  flags_lt := by decide

theorem message_round_trip_iff_create :
    ∃ b, encode plainSeal (sampleOutgoing [0x6e]) .create = .ok b ∧
      RoundTrip plainEnv plainSeal (sampleOutgoing [0x6e]) (some (1, [0, 0, 0, 1, 0x6e]))
        (some (6, [1, 0x10, 0, 0, 0, 0, 0, 8])) b := by
  have hencode : ∃ b, encode plainSeal (sampleOutgoing [0x6e]) .create = .ok b := ⟨_, rfl⟩
  obtain ⟨b, hb⟩ := hencode
  refine ⟨b, hb, ?_⟩
  exact (message_round_trip_iff plainSealing (sampleOutgoing [0x6e]) .create b hb).mpr (by decide)

/-- an ACK is made whatever the length of its AP_REQ is -/
theorem sample_ack (apReq : Bytes) : ∃ b, encode plainSeal (sampleOutgoing apReq) .ack = .ok b := by
  have hdata : (enc32 1 ++ apReq).length = 4 + apReq.length := by rw [List.length_append, enc32_length]
  have hset : ∃ ps, setplKinkPayload (setplKinkHeader (sampleOutgoing apReq)
      (payloadSize + (enc32 1 ++ apReq).length + 0) 5 true) (enc32 1 ++ apReq) 1 = .ok ps := by
    refine ⟨_, if_neg ?_⟩
    unfold setplKinkHeader
    dsimp only
    rw [header_length, hdata]
    unfold headerSize payloadSize align
    omega
  obtain ⟨ps, hps⟩ := hset
  have hfields := setplKinkPayload_first hps
  have hroom : align ps.octets.length + 24 ≤ ps.size := by
    rw [hfields]
    dsimp only
    rw [wire_length, chain, payload_length, hdata]
    unfold payloadSize headerSize align
    omega
  have hfinal := setplFinalize_room plainSeal (sampleOutgoing apReq) rfl
    (fun b => ⟨sumCksum b, rfl, show 12 ≤ 24 by decide⟩) hroom
  obtain ⟨b, hb⟩ := hfinal
  refine ⟨b, ?_⟩
  show (setplKinkPayload (setplKinkHeader (sampleOutgoing apReq)
    (payloadSize + (enc32 1 ++ apReq).length + 0) 5 true) (enc32 1 ++ apReq) 1 >>= fun ps =>
      setplFinalize plainSeal (sampleOutgoing apReq) ps) = .ok b
  rw [hps]
  exact hb

/-- the length fields of an ACK with a long AP_REQ wrap, and nothing fails -/
theorem long_ack (apReq : Bytes) (h : 65536 ≤ apReq.length) :
    ∃ b, encode plainSeal (sampleOutgoing apReq) .ack = .ok b ∧
      ¬ RoundTrip plainEnv plainSeal (sampleOutgoing apReq) (some (1, enc32 1 ++ apReq)) none b := by
  obtain ⟨b, hb⟩ := sample_ack apReq
  refine ⟨b, hb, fun hround => ?_⟩
  obtain ⟨msgtype, hencode⟩ := encode_parts plainSeal _ hb
  obtain ⟨outer, houter, hfin⟩ := encodeWith_ok hencode
  obtain ⟨cksumLen, tail, -, hroom, -⟩ := hfin.layout
  have hchain : payloadSize + (enc32 1 ++ apReq).length ≤ (chain outer).length := by
    rw [show outer = [(1, enc32 1 ++ apReq)] from houter, chain, payload_length]
    exact Nat.le_refl _
  rw [List.length_append] at hchain
  have hfield := be16_lt b 2
  rw [hround.lengths.1] at hfield
  omega

/-- an AP_REQ of 65536 octets -/
theorem long_ack_not_read_back :
    ∃ b, encode plainSeal (sampleOutgoing (List.replicate 65536 0)) .ack = .ok b ∧
      ¬ RoundTrip plainEnv plainSeal (sampleOutgoing (List.replicate 65536 0))
        (some (1, enc32 1 ++ List.replicate 65536 0)) none b :=
  long_ack (List.replicate 65536 0) (Nat.le_of_eq List.length_replicate.symm)

end Kink
