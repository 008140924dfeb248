import Racoon2.Kinkd.Reply

/-!
# The encoder for KINK messages

The functions `kink_encode_*` make the bodies of the payloads, set a base header, put the payloads behind
it on boundaries of four octets, move the payloads behind an AP_REQ or AP_REP into a KINK_ENCRYPT, and
write the lengths and the checksum at the end.  A `struct payload_setter` holds the buffer, and the place
of the last Next Payload field.

* `PayloadSetter`, `setplKinkPayload`, `setplDoEncrypt`, `setplFinalize`: the setter;
* `kinkEncodeCreate` and the others: the messages;
* `chain`, `wire`: the octets of payloads in a row, and of a message in front of its checksum;
* `encodeWith_ok`: the octets of every message that an encode function returns.
-/

set_option linter.unusedVariables false

namespace Kink
open Bytes

/-! ## the encoder -/

/-- how an encode function ends without a message: it returns NULL, or the daemon stops (`abort`, or an
access through NULL) -/
inductive Stop where
  | failed
  | crashed
  deriving DecidableEq, Repr

/-- what the encode functions read of `struct kink_handle` -/
structure Outgoing (Ctx : Type) where
  xid : Nat
  flags : Nat
  epoch : Nat
  authContext : Option Ctx
  krbApReq : Option Bytes
  krbApRep : Option Bytes
  isakmp : Option Bytes
  inIsakmp : Option Bytes
  isakmp1sttype : UInt8
  errorCode : Nat
  xid_lt : xid < 2 ^ 32
  flags_lt : flags < 256

/-- `bbkk_encrypt`, `bbkk_calc_cksum` and `bbkk_make_error`; `none`: an error -/
structure Seal (Ctx : Type) where
  encrypt : Ctx → Bytes → Option Bytes
  calcCksum : Ctx → Bytes → Option Bytes
  makeError : Option Ctx → Option Bytes

/-- `struct payload_setter`: the octets in front of `p`, the size of the buffer, the place of the Next
Payload field, and that of KINK_ENCRYPT -/
structure PayloadSetter where
  octets : Bytes
  size : Nat
  nptypeLoc : Nat
  needCksum : Bool
  encrypt : Option Nat

/-- zeros up to a boundary of four octets -/
def pad (b : Bytes) : Bytes := b ++ List.replicate (align b.length - b.length) 0

/-- `struct kink_header` -/
def header (msgtype : UInt8) (length xid : Nat) (nptype flags : UInt8) (cksumLen : Nat) : Bytes :=
  [msgtype, 0x10] ++ enc16 length ++ enc32 1 ++ enc32 xid ++ [nptype, flags] ++ enc16 cksumLen

/-- `struct kink_payload`, and the body -/
def payload (nptype : UInt8) (body : Bytes) : Bytes :=
  [nptype, 0] ++ enc16 (payloadSize + body.length) ++ body

variable {Ctx : Type}

section
variable (kh : Outgoing Ctx)

/-- `make_kink_ap_req` -/
def makeKinkApReq : Except Stop Bytes :=
  match kh.krbApReq with
  | none => .error .crashed
  | some apReq => .ok (enc32 kh.epoch ++ apReq)

/-- `make_kink_ap_rep` -/
def makeKinkApRep : Except Stop Bytes :=
  match kh.krbApRep with
  | none => .error .crashed
  | some apRep => .ok (enc32 kh.epoch ++ apRep)

/-- `make_kink_isakmp` -/
def makeKinkIsakmp : Except Stop Bytes :=
  match kh.inIsakmp with
  | none => .error .crashed
  | some inIsakmp => .ok ([kh.isakmp1sttype, 0x10, 0, 0] ++ inIsakmp)

/-- `make_kink_error` -/
def makeKinkError : Bytes := enc32 kh.errorCode

/-- `make_krb_error` -/
def makeKrbError (crypt : Seal Ctx) : Except Stop Bytes :=
  match crypt.makeError kh.authContext with
  | none => .error .failed
  | some krbError => .ok krbError

/-- `setpl_kink_header`: the buffer has room for the header, a checksum of 24 octets, padding, and an
encryption that adds 80 octets at most -/
def setplKinkHeader (size : Nat) (msgtype : UInt8) (needCksum : Bool) : PayloadSetter :=
  ⟨header msgtype 0 kh.xid 0 (UInt8.ofNat kh.flags) 0, size + headerSize + 24 + 9 + 8 + 80, 12, needCksum,
    none⟩

end

/-- `setpl_kink_payload` -/
def setplKinkPayload (ps : PayloadSetter) (data : Bytes) (nptype : UInt8) : Except Stop PayloadSetter :=
  if ps.size < align ps.octets.length + payloadSize + data.length then .error .crashed
  else .ok { ps with
    octets := put (pad ps.octets) ps.nptypeLoc [nptype] ++ payload 0 data
    nptypeLoc := align ps.octets.length }

/-- `setpl_begin_encrypt_here` -/
def setplBeginEncryptHere (ps : PayloadSetter) : Except Stop PayloadSetter :=
  if ps.size < align ps.octets.length + 8 then .error .crashed
  else .ok { ps with
    octets := put (pad ps.octets) ps.nptypeLoc [7] ++ List.replicate 8 0
    nptypeLoc := align ps.octets.length + payloadSize
    encrypt := some (align ps.octets.length) }

section
variable (crypt : Seal Ctx) (kh : Outgoing Ctx)

/-- `setpl_do_encrypt` -/
def setplDoEncrypt (ps : PayloadSetter) : Except Stop PayloadSetter :=
  match ps.encrypt, kh.authContext with
  | none, _ => .error .failed
  | some _, none => .error .crashed
  | some encrypt, some ctx =>
    match crypt.encrypt ctx (ps.octets.drop (encrypt + payloadSize)) with
    | none => .error .failed
    | some enc =>
      if ps.size < encrypt + payloadSize + enc.length then .error .failed
      else .ok { ps with
        octets := put (ps.octets.take (encrypt + payloadSize)) (encrypt + 2)
          (enc16 (payloadSize + enc.length)) ++ enc
        nptypeLoc := encrypt
        encrypt := none }

/-- `setpl_finalize` -/
def setplFinalize (ps : PayloadSetter) : Except Stop Bytes :=
  if ps.needCksum then
    match kh.authContext with
    | none => .error .failed
    | some ctx =>
      if ps.size < align ps.octets.length then .error .failed
      else
        let buf := put (pad ps.octets) 2 (enc16 (align ps.octets.length))
        match crypt.calcCksum ctx buf with
        | none => .error .failed
        | some cksum =>
          if ps.size - align ps.octets.length < cksum.length then .error .failed
          else .ok (put (put buf 14 (enc16 cksum.length)) 2
            (enc16 (align ps.octets.length + cksum.length)) ++ cksum)
  else .ok (put ps.octets 2 (enc16 ps.octets.length))

/-- the payload of a type, with its body -/
abbrev TypedBody := UInt8 × Bytes

def TypedBody.size (data : TypedBody) : Nat := payloadSize + data.2.length

/-- what all encode functions do with the bodies: an AP_REQ or AP_REP comes first, and the other payload
is encrypted behind it -/
def encodeWith (msgtype : UInt8) (needCksum : Bool) (ap last : Option TypedBody) : Except Stop Bytes := do
  let size := (ap.map TypedBody.size).getD 0 + (last.map TypedBody.size).getD 0
  let ps := setplKinkHeader kh size msgtype needCksum
  match ap, last with
  | none, none => setplFinalize crypt kh ps
  | some ap, none => do
    let ps ← setplKinkPayload ps ap.2 ap.1
    setplFinalize crypt kh ps
  | none, some last => do
    let ps ← setplKinkPayload ps last.2 last.1
    setplFinalize crypt kh ps
  | some ap, some last => do
    let ps ← setplKinkPayload ps ap.2 ap.1
    let ps ← setplBeginEncryptHere ps
    let ps ← setplKinkPayload ps last.2 last.1
    let ps ← setplDoEncrypt crypt kh ps
    setplFinalize crypt kh ps

/-- `kink_encode_create` -/
def kinkEncodeCreate : Except Stop Bytes := do
  let apReq ← makeKinkApReq kh
  let isakmp ← makeKinkIsakmp kh
  encodeWith crypt kh 1 true (some (1, apReq)) (some (6, isakmp))

/-- `kink_encode_delete` -/
def kinkEncodeDelete : Except Stop Bytes := do
  let apReq ← makeKinkApReq kh
  let isakmp ← makeKinkIsakmp kh
  encodeWith crypt kh 2 true (some (1, apReq)) (some (6, isakmp))

/-- `kink_encode_ack` -/
def kinkEncodeAck : Except Stop Bytes := do
  let apReq ← makeKinkApReq kh
  encodeWith crypt kh 5 true (some (1, apReq)) none

/-- `kink_encode_status` -/
def kinkEncodeStatus : Except Stop Bytes := do
  let apReq ← makeKinkApReq kh
  if kh.isakmp.isSome then do
    let isakmp ← makeKinkIsakmp kh
    encodeWith crypt kh 6 true (some (1, apReq)) (some (6, isakmp))
  else encodeWith crypt kh 6 true (some (1, apReq)) none

/-- `kink_encode_reply` -/
def kinkEncodeReply : Except Stop Bytes := do
  let apRep ← makeKinkApRep kh
  if kh.inIsakmp.isSome then do
    let isakmp ← makeKinkIsakmp kh
    encodeWith crypt kh 3 true (some (2, apRep)) (some (6, isakmp))
  else encodeWith crypt kh 3 true (some (2, apRep)) none

/-- `kink_encode_reply_kink_error` -/
def kinkEncodeReplyKinkError : Except Stop Bytes :=
  if kh.errorCode = 0 then .error .crashed
  else if kh.krbApRep.isSome then do
    let apRep ← makeKinkApRep kh
    encodeWith crypt kh 3 true (some (2, apRep)) (some (8, makeKinkError kh))
  else encodeWith crypt kh 3 false none (some (8, makeKinkError kh))

/-- `kink_encode_reply_krb_error` -/
def kinkEncodeReplyKrbError : Except Stop Bytes :=
  if kh.authContext.isSome then do
    let apRep ← makeKinkApRep kh
    let krbError ← makeKrbError kh crypt
    encodeWith crypt kh 3 kh.krbApRep.isSome (some (2, apRep)) (some (3, krbError))
  else do
    let krbError ← makeKrbError kh crypt
    encodeWith crypt kh 3 kh.krbApRep.isSome none (some (3, krbError))

end

/-! ## octets of a message -/

theorem pad_length (b : Bytes) : (pad b).length = align b.length := by
  have hup := align_bounds b.length
  unfold pad
  rw [List.length_append, List.length_replicate]
  omega

theorem align_of_aligned {n : Nat} (h : n % 4 = 0) : align n = n := by
  unfold align
  omega

theorem header_length (msgtype : UInt8) (length xid : Nat) (nptype flags : UInt8) (cksumLen : Nat) :
    (header msgtype length xid nptype flags cksumLen).length = 16 := rfl

theorem payload_length (nptype : UInt8) (body : Bytes) :
    (payload nptype body).length = 4 + body.length := by
  unfold payload
  rw [List.length_append]
  rfl

theorem put_header_length (msgtype : UInt8) (length length' xid : Nat) (nptype flags : UInt8)
    (cksumLen : Nat) (rest : Bytes) :
    put (header msgtype length xid nptype flags cksumLen ++ rest) 2 (enc16 length') =
      header msgtype length' xid nptype flags cksumLen ++ rest := rfl

theorem put_header_cksumLen (msgtype : UInt8) (length xid : Nat) (nptype flags : UInt8)
    (cksumLen cksumLen' : Nat) (rest : Bytes) :
    put (header msgtype length xid nptype flags cksumLen ++ rest) 14 (enc16 cksumLen') =
      header msgtype length xid nptype flags cksumLen' ++ rest := rfl

/-- a field of a payload behind other octets -/
theorem put_payload_nptype (front : Bytes) (nptype nptype' : UInt8) (body rest : Bytes) :
    put (front ++ (payload nptype body ++ rest)) front.length [nptype'] =
      front ++ (payload nptype' body ++ rest) := by
  unfold put
  rw [List.take_left, List.append_assoc, List.drop_length_add_append]
  rfl

/-- payloads in a row, each on a boundary of four octets -/
def chain : List TypedBody → Bytes
  | [] => []
  | [data] => payload 0 data.2
  | data :: next :: rest => pad (payload next.1 data.2) ++ chain (next :: rest)

/-- the Next Payload field in front of them -/
def firstType : List TypedBody → UInt8
  | [] => 0
  | data :: _ => data.1

/-- the header and the payloads -/
def wire (kh : Outgoing Ctx) (msgtype : UInt8) (outer : List TypedBody) (length cksumLen : Nat) : Bytes :=
  header msgtype length kh.xid (firstType outer) (UInt8.ofNat kh.flags) cksumLen ++ chain outer

theorem wire_length (kh : Outgoing Ctx) (msgtype : UInt8) (outer : List TypedBody) (length cksumLen : Nat) :
    (wire kh msgtype outer length cksumLen).length = 16 + (chain outer).length := by
  unfold wire
  rw [List.length_append]
  rfl

theorem put_wire_length (kh : Outgoing Ctx) (msgtype : UInt8) (outer : List TypedBody)
    (length length' cksumLen : Nat) :
    put (pad (wire kh msgtype outer length cksumLen)) 2 (enc16 length') =
      pad (wire kh msgtype outer length' cksumLen) := by
  unfold pad
  rw [wire_length, wire_length]
  unfold wire
  rw [List.append_assoc, put_header_length, ← List.append_assoc]

theorem put_wire_cksumLen (kh : Outgoing Ctx) (msgtype : UInt8) (outer : List TypedBody)
    (length cksumLen cksumLen' : Nat) :
    put (pad (wire kh msgtype outer length cksumLen)) 14 (enc16 cksumLen') =
      pad (wire kh msgtype outer length cksumLen') := by
  unfold pad
  rw [wire_length, wire_length]
  unfold wire
  rw [List.append_assoc, put_header_cksumLen, ← List.append_assoc]

/-- the octets that are encrypted -/
def sealBody (last : TypedBody) : Bytes := [last.1, 0, 0, 0] ++ payload 0 last.2

section
variable (crypt : Seal Ctx) (kh : Outgoing Ctx) (msgtype : UInt8)

/-- the payloads of a message: those that were given, or the first one and what the second one is
encrypted to -/
def Outer (ap last : Option TypedBody) (outer : List TypedBody) : Prop :=
  match ap, last with
  | none, none => outer = []
  | some ap, none => outer = [ap]
  | none, some last => outer = [last]
  | some ap, some last => ∃ ctx enc, kh.authContext = some ctx ∧
      crypt.encrypt ctx (sealBody last) = some enc ∧ outer = [ap, (7, enc)]

/-- a message with these payloads: without a checksum, or with one over all that stands in front of it -/
def Finished (needCksum : Bool) (outer : List TypedBody) (b : Bytes) : Prop :=
  (needCksum = false ∧ b = wire kh msgtype outer (16 + (chain outer).length) 0) ∨
    (needCksum = true ∧ ∃ ctx cksum, kh.authContext = some ctx ∧
      crypt.calcCksum ctx (pad (wire kh msgtype outer (align (16 + (chain outer).length)) 0)) = some cksum ∧
      b = pad (wire kh msgtype outer (align (16 + (chain outer).length) + cksum.length) cksum.length)
        ++ cksum)

end

section
variable {crypt : Seal Ctx} {kh : Outgoing Ctx} {msgtype : UInt8}

theorem setplFinalize_ok (msgtype : UInt8) (outer : List TypedBody) {ps : PayloadSetter} {b : Bytes}
    (h : setplFinalize crypt kh ps = .ok b) (hoctets : ps.octets = wire kh msgtype outer 0 0) :
    Finished crypt kh msgtype ps.needCksum outer b := by
  have hlen : ps.octets.length = 16 + (chain outer).length := by rw [hoctets, wire_length]
  unfold setplFinalize at h
  by_cases hneed : ps.needCksum = true
  · right
    refine ⟨hneed, ?_⟩
    rw [if_pos hneed] at h
    cases hctx : kh.authContext with
    | none =>
      rw [hctx] at h
      cases h
    | some ctx =>
      rw [hctx, hlen, hoctets, put_wire_length] at h
      dsimp only at h
      split_ifs at h with hsize
      cases hcalc : crypt.calcCksum ctx (pad (wire kh msgtype outer (align (16 + (chain outer).length)) 0)) with
      | none =>
        rw [hcalc] at h
        cases h
      | some cksum =>
        rw [hcalc] at h
        dsimp only at h
        split_ifs at h with hroom
        rw [put_wire_cksumLen, put_wire_length] at h
        exact ⟨ctx, cksum, rfl, hcalc, (Except.ok.inj h).symm⟩
  · left
    have hneed : ps.needCksum = false := Bool.eq_false_iff.mpr hneed
    refine ⟨hneed, ?_⟩
    rw [hneed, hlen, hoctets] at h
    exact (Except.ok.inj h).symm

theorem pad_append (a b : Bytes) (h : a.length % 4 = 0) : pad (a ++ b) = a ++ pad b := by
  unfold pad
  rw [List.length_append, align_add h, Nat.add_sub_add_left, List.append_assoc]

theorem pad_of_aligned (b : Bytes) (h : b.length % 4 = 0) : pad b = b := by
  unfold pad
  rw [align_of_aligned h, Nat.sub_self]
  exact List.append_nil b

theorem pad_aligned (b : Bytes) : (pad b).length % 4 = 0 := by
  rw [pad_length]
  exact (align_bounds b.length).2

/-- a payload right behind the header -/
theorem setplKinkPayload_first {size : Nat} {needCksum : Bool} {data : Bytes} {nptype : UInt8}
    {ps : PayloadSetter}
    (h : setplKinkPayload (setplKinkHeader kh size msgtype needCksum) data nptype = .ok ps) :
    ps = ⟨wire kh msgtype [(nptype, data)] 0 0, size + headerSize + 24 + 9 + 8 + 80, 16, needCksum, none⟩ := by
  have hpad : pad (header msgtype 0 kh.xid 0 (UInt8.ofNat kh.flags) 0) =
      header msgtype 0 kh.xid 0 (UInt8.ofNat kh.flags) 0 := pad_of_aligned _ (by rw [header_length])
  unfold setplKinkPayload setplKinkHeader at h
  dsimp only at h
  rw [hpad, header_length] at h
  split_ifs at h with hsize
  exact (Except.ok.inj h).symm

/-- the octets in front of KINK_ENCRYPT -/
def sealFront (kh : Outgoing Ctx) (msgtype : UInt8) (ap : TypedBody) : Bytes :=
  header msgtype 0 kh.xid ap.1 (UInt8.ofNat kh.flags) 0 ++ pad (payload 7 ap.2)

theorem sealFront_aligned (kh : Outgoing Ctx) (msgtype : UInt8) (ap : TypedBody) :
    (sealFront kh msgtype ap).length % 4 = 0 := by
  have hpad := pad_aligned (payload 7 ap.2)
  unfold sealFront
  rw [List.length_append, header_length]
  omega

/-- what stands behind it is the wire of both -/
theorem sealFront_payload (kh : Outgoing Ctx) (msgtype : UInt8) (ap : TypedBody) (enc : Bytes) :
    sealFront kh msgtype ap ++ payload 0 enc = wire kh msgtype [ap, (7, enc)] 0 0 := by
  unfold sealFront wire
  rw [List.append_assoc]
  rfl

theorem setplBeginEncryptHere_ok {ap : TypedBody} {size : Nat} {needCksum : Bool} {ps : PayloadSetter}
    (h : setplBeginEncryptHere ⟨wire kh msgtype [ap] 0 0, size, 16, needCksum, none⟩ = .ok ps) :
    ps = ⟨sealFront kh msgtype ap ++ List.replicate 8 0, size, (sealFront kh msgtype ap).length + 4, needCksum,
      some (sealFront kh msgtype ap).length⟩ := by
  have hpad : pad (wire kh msgtype [ap] 0 0) =
      header msgtype 0 kh.xid ap.1 (UInt8.ofNat kh.flags) 0 ++ pad (payload 0 ap.2) :=
    pad_append _ _ (by rw [header_length])
  have hput : put (pad (wire kh msgtype [ap] 0 0)) 16 [7] = sealFront kh msgtype ap := by
    rw [hpad]
    unfold sealFront pad
    rw [payload_length, payload_length]
    exact put_payload_nptype (header msgtype 0 kh.xid ap.1 (UInt8.ofNat kh.flags) 0) 0 7 ap.2 _
  have hlen : align (wire kh msgtype [ap] 0 0).length = (sealFront kh msgtype ap).length := by
    rw [← pad_length, hpad]
    unfold sealFront
    rw [List.length_append, List.length_append, pad_length, pad_length, payload_length, payload_length]
  unfold setplBeginEncryptHere at h
  dsimp only at h
  rw [hput, hlen] at h
  split_ifs at h with hsize
  exact (Except.ok.inj h).symm

theorem setplKinkPayload_sealed {ap last : TypedBody} {size : Nat} {needCksum : Bool} {ps : PayloadSetter}
    (h : setplKinkPayload ⟨sealFront kh msgtype ap ++ List.replicate 8 0, size,
      (sealFront kh msgtype ap).length + 4, needCksum, some (sealFront kh msgtype ap).length⟩ last.2 last.1
        = .ok ps) :
    ps.octets = (sealFront kh msgtype ap ++ [0, 0, 0, 0]) ++ sealBody last ∧ ps.size = size ∧
      ps.needCksum = needCksum ∧ ps.encrypt = some (sealFront kh msgtype ap).length := by
  have haligned : (sealFront kh msgtype ap ++ List.replicate 8 0).length % 4 = 0 := by
    have hfront := sealFront_aligned kh msgtype ap
    rw [List.length_append, List.length_replicate]
    omega
  have hput : put (sealFront kh msgtype ap ++ List.replicate 8 0) ((sealFront kh msgtype ap).length + 4)
      [last.1] = (sealFront kh msgtype ap ++ [0, 0, 0, 0]) ++ [last.1, 0, 0, 0] := by
    have hset := put_append (sealFront kh msgtype ap ++ [0, 0, 0, 0]) [0, 0, 0]
      (show ([0] : Bytes).length = [last.1].length from rfl)
    rw [List.length_append, List.append_assoc] at hset
    exact hset
  unfold setplKinkPayload at h
  dsimp only at h
  rw [pad_of_aligned _ haligned, hput] at h
  split_ifs at h with hsize
  rw [← Except.ok.inj h]
  refine ⟨?_, rfl, rfl, rfl⟩
  unfold sealBody
  rw [List.append_assoc]

theorem setplDoEncrypt_ok {ap last : TypedBody} {ps ps' : PayloadSetter}
    (hoctets : ps.octets = (sealFront kh msgtype ap ++ [0, 0, 0, 0]) ++ sealBody last)
    (hencrypt : ps.encrypt = some (sealFront kh msgtype ap).length)
    (h : setplDoEncrypt crypt kh ps = .ok ps') :
    ∃ ctx enc, kh.authContext = some ctx ∧ crypt.encrypt ctx (sealBody last) = some enc ∧
      ps'.octets = wire kh msgtype [ap, (7, enc)] 0 0 ∧ ps'.needCksum = ps.needCksum := by
  have hlen : (sealFront kh msgtype ap).length + payloadSize =
      (sealFront kh msgtype ap ++ [0, 0, 0, 0]).length := by
    rw [List.length_append]
    rfl
  unfold setplDoEncrypt at h
  rw [hencrypt] at h
  cases hctx : kh.authContext with
  | none =>
    rw [hctx] at h
    cases h
  | some ctx =>
    rw [hctx] at h
    dsimp only at h
    rw [hoctets, hlen, List.drop_left, List.take_left] at h
    cases henc : crypt.encrypt ctx (sealBody last) with
    | none =>
      rw [henc] at h
      cases h
    | some enc =>
      rw [henc] at h
      dsimp only at h
      split_ifs at h with hsize
      refine ⟨ctx, enc, rfl, henc, ?_, ?_⟩
      · rw [← Except.ok.inj h, ← sealFront_payload]
        have hput := put_append (sealFront kh msgtype ap ++ [0, 0]) []
          (show ([0, 0] : Bytes).length = (enc16 (payloadSize + enc.length)).length from rfl)
        rw [List.length_append, List.append_assoc, List.append_assoc] at hput
        dsimp only
        have hput' : put (sealFront kh msgtype ap ++ [0, 0, 0, 0]) ((sealFront kh msgtype ap).length + 2)
            (enc16 (payloadSize + enc.length)) =
              sealFront kh msgtype ap ++ ([0, 0] ++ (enc16 (payloadSize + enc.length) ++ [])) := hput
        rw [hput', List.append_assoc]
        rfl
      · rw [← Except.ok.inj h]

/-- a step of the encoder that did not stop -/
theorem except_bind_ok {α β : Type} {x : Except Stop α} {f : α → Except Stop β} {b : β}
    (h : x >>= f = .ok b) : ∃ a, x = .ok a ∧ f a = .ok b := by
  cases x with
  | error e => cases h
  | ok a => exact ⟨a, rfl, h⟩

/-- one payload, right behind the header -/
theorem encode_single {size : Nat} {needCksum : Bool} {data : TypedBody} {b : Bytes}
    (h : (do
      let ps ← setplKinkPayload (setplKinkHeader kh size msgtype needCksum) data.2 data.1
      setplFinalize crypt kh ps) = .ok b) :
    Finished crypt kh msgtype needCksum [data] b := by
  obtain ⟨ps, hps, hfinal⟩ := except_bind_ok h
  have hps := setplKinkPayload_first hps
  have hneed : ps.needCksum = needCksum := by rw [hps]
  have hdone := setplFinalize_ok msgtype [data] hfinal (by rw [hps])
  rw [hneed] at hdone
  exact hdone

/-- the octets of every message -/
theorem encodeWith_ok {needCksum : Bool} {ap last : Option TypedBody} {b : Bytes}
    (h : encodeWith crypt kh msgtype needCksum ap last = .ok b) :
    ∃ outer, Outer crypt kh ap last outer ∧ Finished crypt kh msgtype needCksum outer b := by
  unfold encodeWith at h
  rcases ap with _ | ap
  · rcases last with _ | last
    · refine ⟨[], rfl, ?_⟩
      exact setplFinalize_ok msgtype [] h (List.append_nil _).symm
    · exact ⟨[last], rfl, encode_single h⟩
  · rcases last with _ | last
    · exact ⟨[ap], rfl, encode_single h⟩
    · dsimp only at h
      obtain ⟨ps₁, h₁, h⟩ := except_bind_ok h
      rw [setplKinkPayload_first h₁] at h
      obtain ⟨ps₂, h₂, h⟩ := except_bind_ok h
      rw [setplBeginEncryptHere_ok h₂] at h
      obtain ⟨ps₃, h₃, h⟩ := except_bind_ok h
      obtain ⟨hoctets, -, hneed, hencrypt⟩ := setplKinkPayload_sealed h₃
      obtain ⟨ps₄, h₄, h⟩ := except_bind_ok h
      obtain ⟨ctx, enc, hctx, henc, hwire, hneed'⟩ := setplDoEncrypt_ok hoctets hencrypt h₄
      refine ⟨[ap, (7, enc)], ⟨ctx, enc, hctx, henc, rfl⟩, ?_⟩
      have hdone := setplFinalize_ok msgtype _ h hwire
      rw [hneed', hneed] at hdone
      exact hdone

end

end Kink
