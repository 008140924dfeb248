import Racoon2.Lib.Reads

/-!
# The decoder for KINK messages

A datagram is read up to the length in its header and one octet more. The payloads behind the header
are walked with a remaining length that the length of the packet, the checksum length and the
payload lengths go into; the body of a KINK_ENCRYPT payload is walked in the same way.

* `readUdpPacket`, `kinkDecodeGeneric`, `kinkDecodeVerifyChecksum`, `decodeEncrypted`: the functions,
  with a log of their reads and of their subtractions;
* `Received`: a packet that `read_udp_packet` accepts.
-/

set_option linter.unusedVariables false

namespace Kink
open Bytes

/-! ## the decoder -/

/-- the payloads that a handle holds of one message -/
structure Payloads where
  apReq : Option Bytes
  apRep : Option Bytes
  krbError : Option Bytes
  isakmp : Option Bytes
  encrypt : Option Bytes
  error : Option Bytes
  deriving DecidableEq, Repr

/-- `release_payloads` -/
def releasePayloads : Payloads := ⟨none, none, none, none, none, none⟩

/-- which payloads came encrypted -/
structure Encrypted where
  krbError : Bool
  isakmp : Bool
  error : Bool
  deriving DecidableEq, Repr

/-- what the decoder writes of `struct kink_handle` -/
structure Decoded where
  xid : Nat
  flags : Nat
  errorCode : Nat
  payloads : Payloads
  encrypted : Encrypted
  deriving DecidableEq, Repr

/-- sizeof(struct kink_header) -/
def headerSize : Nat := 16

/-- sizeof(struct kink_payload) -/
def payloadSize : Nat := 4

/-- sizeof(struct kink_pl_encrypt_b) -/
def encryptSize : Nat := 4

def maxPacketSize : Nat := 16384

def errProtoerr : Nat := 1
def errInvdoi : Nat := 2
def errInvmaj : Nat := 3
def errInvmin : Nat := 4
def errInterr : Nat := 5

/-- ALIGN(num, 4) -/
def align (num : Nat) : Nat := (num + 3) / 4 * 4

/-- `read_udp_packet`; one octet more than the header says shows a longer datagram -/
def readUdpPacket (datagram : Bytes) : Option Bytes :=
  if datagram.length < headerSize then none
  else if maxPacketSize < be16 datagram 2 then none
  else some (datagram.take (be16 datagram 2 + 1))

section
variable (m : Memory)

/-- a 16-bit field -/
def field16 (p : Nat) : Walk Nat := do
  let octets ← Walk.copy m p 2
  pure (be16 octets 0)

/-- a 32-bit field -/
def field32 (p : Nat) : Walk Nat := do
  let octets ← Walk.copy m p 4
  pure (be32 octets 0)

/-- `kink_decode_check_generic` -/
def kinkDecodeCheckGeneric : Walk Nat :=
  if m.size < headerSize then pure errProtoerr
  else do
    let msglen ← field16 m 2
    if m.size < msglen then pure errProtoerr
    else do
      let rest ← Walk.sub msglen headerSize
      let cksumLen ← field16 m 14
      if rest < cksumLen then pure errProtoerr
      else do
        let ver ← Walk.read m 1
        if ver.toNat / 16 ≠ 1 then pure errInvmaj
        else if ver.toNat % 16 ≠ 0 then pure errInvmin
        else do
          let doi ← field32 m 4
          if doi ≠ 1 then pure errInvdoi else pure 0

/-- `get_kink_payload` -/
def getKinkPayload (p : Nat) : Walk (Option Bytes) := do
  let len ← field16 m (p + 2)
  if len < payloadSize then pure none
  else do
    let len ← Walk.sub len payloadSize
    let octets ← Walk.copy m (p + payloadSize) len
    pure (some octets)

/-- the first payload of a type is kept -/
def keepFirst (p : Nat) (old : Option Bytes) : Walk (Option Bytes) :=
  if old ≠ none then pure old else getKinkPayload m p

/-- the `switch` of `kink_decode_payload_list`; whether the walk goes on, and the handle -/
def decodePayload (inEncrypt : Bool) (kh : Decoded) (nptype p : Nat) : Walk (Bool × Decoded) :=
  match nptype with
  | 1 => do
    let apReq ← keepFirst m p kh.payloads.apReq
    pure (true, { kh with payloads := { kh.payloads with apReq := apReq } })
  | 2 => do
    let apRep ← keepFirst m p kh.payloads.apRep
    pure (true, { kh with payloads := { kh.payloads with apRep := apRep } })
  | 3 => do
    let krbError ← keepFirst m p kh.payloads.krbError
    let first := inEncrypt && kh.payloads.krbError.isNone
    pure (true, { kh with
      payloads := { kh.payloads with krbError := krbError }
      encrypted := { kh.encrypted with krbError := kh.encrypted.krbError || first } })
  | 6 => do
    let isakmp ← keepFirst m p kh.payloads.isakmp
    let first := inEncrypt && kh.payloads.isakmp.isNone
    pure (true, { kh with
      payloads := { kh.payloads with isakmp := isakmp }
      encrypted := { kh.encrypted with isakmp := kh.encrypted.isakmp || first } })
  | 7 =>
    if inEncrypt then pure (true, kh)
    else do
      let encrypt ← keepFirst m p kh.payloads.encrypt
      pure (true, { kh with payloads := { kh.payloads with encrypt := encrypt } })
  | 4 => pure (false, { kh with errorCode := errInterr })
  | 5 => pure (false, { kh with errorCode := errInterr })
  | 8 => do
    let error ← keepFirst m p kh.payloads.error
    let first := inEncrypt && kh.payloads.error.isNone
    pure (true, { kh with
      payloads := { kh.payloads with error := error }
      encrypted := { kh.encrypted with error := kh.encrypted.error || first } })
  | _ => pure (false, { kh with errorCode := errProtoerr })

/-- `kink_decode_payload_list`; whether it returns 0, and the handle. The buffer is aligned, so that
ALIGN_PTR aligns the place in it -/
def kinkDecodePayloadList (inEncrypt : Bool) :
    Nat → Decoded → Nat → Nat → Nat → Nat → Walk (Bool × Decoded)
  | 0, _, _, _, _, _ => ⟨[], .stuck⟩
  | fuel + 1, kh, p, nptype, remlen, padding =>
    if nptype = 0 then pure (true, kh)
    else if remlen < padding then pure (false, { kh with errorCode := errProtoerr })
    else do
      let remlen ← Walk.sub remlen padding
      if remlen < payloadSize then pure (false, { kh with errorCode := errProtoerr })
      else do
        let len ← field16 m (p + 2)
        if remlen < len then pure (false, { kh with errorCode := errProtoerr })
        else do
          let (goOn, kh) ← decodePayload m inEncrypt kh nptype p
          if goOn = false then pure (false, kh)
          else do
            let len := max len payloadSize
            let nptype ← Walk.read m p
            let remlen ← Walk.sub remlen len
            kinkDecodePayloadList inEncrypt fuel kh (align (p + len)) nptype.toNat remlen
              (align len - len)

/-- `kink_decode_generic`; every payload takes octets from `remlen`, so that many rounds are enough -/
def kinkDecodeGeneric (kh : Decoded) : Walk (Bool × Decoded) := do
  let xid ← field32 m 8
  let flags ← Walk.read m 13
  let errorCode ← kinkDecodeCheckGeneric m
  let kh := { kh with xid := xid, flags := flags.toNat, errorCode := errorCode }
  if errorCode ≠ 0 then pure (false, kh)
  else do
    let cksumLen ← field16 m 14
    let rest ← Walk.sub m.size headerSize
    let remlen ← Walk.sub rest cksumLen
    let nptype ← Walk.read m 12
    kinkDecodePayloadList m false (remlen + 1) kh headerSize nptype.toNat remlen 0

/-- `kink_decode_verify_checksum` returns 0; `verify` is `bbkk_verify_cksum` with the context of the
handle, for the message with the lengths of one without checksum -/
def kinkDecodeVerifyChecksum (verify : Option (Bytes → Bytes → Bool)) : Walk Bool := do
  let msglen ← field16 m 2
  let cksumLen ← field16 m 14
  if cksumLen = 0 then pure false
  else
    match verify with
    | none => pure false
    | some verify => do
      let len ← Walk.sub msglen cksumLen
      let body ← Walk.copy m 0 len
      let cksum ← Walk.copy m (usub msglen cksumLen) cksumLen
      pure (verify (put (put body 2 (enc16 len)) 14 [0, 0]) cksum)

/-- what `kink_decode_kink_encrypt` does with the decrypted body -/
def decodeEncrypted (kh : Decoded) : Walk (Bool × Decoded) := do
  let inNptype ← Walk.read m 0
  let remlen ← Walk.sub m.size encryptSize
  kinkDecodePayloadList m true (remlen + 1) kh encryptSize inNptype.toNat remlen 0

end

/-! ## reads inside the buffer -/

section
variable {m : Memory} {p : Nat}

theorem field16_within (h : p + 2 ≤ m.size) :
    (field16 m p).Within m.size (fun v => v = be16 m.octets p) := by
  refine .bind (.copy h) fun octets ho => .pure ?_
  rw [ho, be16_slice _ (Nat.le_refl _), Nat.add_zero]

theorem field32_within (h : p + 4 ≤ m.size) :
    (field32 m p).Within m.size (fun v => v = be32 m.octets p) := by
  refine .bind (.copy h) fun octets ho => .pure ?_
  rw [ho, be32_slice _ (Nat.le_refl _), Nat.add_zero]

theorem getKinkPayload_within (h : p + payloadSize ≤ m.size)
    (hlen : p + be16 m.octets (p + 2) ≤ m.size) :
    (getKinkPayload m p).Within m.size (fun _ => True) := by
  have hbound := be16_lt m.octets (p + 2)
  have hsize : payloadSize = 4 := rfl
  refine .bind (field16_within (by omega)) fun len hv => .ite (fun _ => .pure trivial) fun hge => ?_
  subst hv
  refine .bind (.sub (by omega) (by omega)) fun len' hv => ?_
  subst hv
  exact .bind (.copy (by omega)) fun _ _ => .pure trivial

theorem decodePayload_within {inEncrypt : Bool} {kh : Decoded} {nptype : Nat}
    (h : p + payloadSize ≤ m.size) (hlen : p + be16 m.octets (p + 2) ≤ m.size) :
    (decodePayload m inEncrypt kh nptype p).Within m.size (fun _ => True) := by
  have hkeep : ∀ old, (keepFirst m p old).Within m.size (fun _ => True) := fun old =>
    .ite (fun _ => .pure trivial) fun _ => getKinkPayload_within h hlen
  unfold decodePayload
  split
  all_goals first
    | exact .bind (hkeep _) fun _ _ => .pure trivial
    | exact .pure trivial
    | exact .ite (fun _ => .pure trivial) fun _ => .bind (hkeep _) fun _ _ => .pure trivial

theorem align_bounds (n : Nat) : n ≤ align n ∧ align n % 4 = 0 := by
  unfold align
  omega

theorem align_add {n len : Nat} (h : n % 4 = 0) : align (n + len) = n + align len := by
  unfold align
  omega

/-- the walk over the payloads, where what remains ends inside the buffer -/
theorem kinkDecodePayloadList_within (inEncrypt : Bool) (fuel : Nat) :
    ∀ kh p nptype remlen padding, p % 4 = 0 → p + remlen ≤ m.size + padding → padding ≤ p →
      remlen < 2 ^ 64 → remlen < fuel →
      (kinkDecodePayloadList m inEncrypt fuel kh p nptype remlen padding).Within m.size
        (fun _ => True) := by
  induction fuel with
  | zero => intro _ _ _ _ _ _ _ _ _ hfuel; omega
  | succ fuel ih =>
    intro kh p nptype remlen padding halign hend hpad hlt hfuel
    have hsize : payloadSize = 4 := rfl
    refine .ite (fun _ => .pure trivial) fun _ => .ite (fun _ => .pure trivial) fun hge => ?_
    refine .bind (.sub hlt (by omega)) fun left hv => ?_
    subst hv
    refine .ite (fun _ => .pure trivial) fun hhead => ?_
    refine .bind (field16_within (by omega)) fun len hv => ?_
    refine .ite (fun _ => .pure trivial) fun hlen => ?_
    subst hv
    refine .bind (decodePayload_within (by omega) (by omega)) fun r _ => ?_
    refine .ite (fun _ => .pure trivial) fun _ => ?_
    refine .bind (.read (by omega)) fun next _ => ?_
    refine .bind (.sub (by omega) (by omega)) fun left' hv => ?_
    subst hv
    have hup := align_bounds (max (be16 m.octets (p + 2)) payloadSize)
    rw [align_add halign]
    refine ih _ _ _ _ _ (by omega) (by omega) (by omega) (by omega) (by omega)

/-! ## every walk ends -/

/-- what a walk leaves as it was: an AP_REP that is there, and outside of KINK_ENCRYPT the XID and what
was encrypted -/
structure Keeps (inEncrypt : Bool) (kh kh' : Decoded) : Prop where
  outside : inEncrypt = false → kh'.xid = kh.xid ∧ kh'.encrypted = kh.encrypted
  apRep : kh.payloads.apRep ≠ none → kh'.payloads.apRep = kh.payloads.apRep

theorem Keeps.trans {inEncrypt : Bool} {kh kh' kh'' : Decoded} (h : Keeps inEncrypt kh kh')
    (h' : Keeps inEncrypt kh' kh'') : Keeps inEncrypt kh kh'' where
  outside := fun ho => ⟨(h'.outside ho).1.trans (h.outside ho).1, (h'.outside ho).2.trans (h.outside ho).2⟩
  apRep := fun hrep => by
    have hsame := h.apRep hrep
    rw [← hsame]
    exact h'.apRep (by rw [hsame]; exact hrep)

theorem getKinkPayload_gives : (getKinkPayload m p).Gives fun _ => True :=
  .bind (P := fun _ => True) (.bind (.copy m _ _) fun _ _ => .pure trivial) fun len _ =>
    .ite (fun _ => .pure trivial) fun _ => .bind (.sub _ _) fun _ _ =>
      .bind (.copy m _ _) fun _ _ => .pure trivial

theorem keepFirst_gives (old : Option Bytes) :
    (keepFirst m p old).Gives fun new => old ≠ none → new = old :=
  .ite (fun _ => .pure fun _ => rfl) fun hnone =>
    ⟨getKinkPayload_gives.1, fun _ _ hold => absurd hold hnone⟩

theorem decodePayload_gives (inEncrypt : Bool) (kh : Decoded) (nptype : Nat) :
    (decodePayload m inEncrypt kh nptype p).Gives fun r => Keeps inEncrypt kh r.2 := by
  unfold decodePayload
  split
  all_goals first
    | exact .bind (keepFirst_gives _) fun _ _ => .pure ⟨fun _ => ⟨rfl, rfl⟩, fun _ => rfl⟩
    | exact .bind (keepFirst_gives _) fun _ hkept => .pure ⟨fun _ => ⟨rfl, rfl⟩, hkept⟩
    | exact .bind (keepFirst_gives _) fun _ _ => .pure ⟨fun h => by subst h; simp, fun _ => rfl⟩
    | exact .pure ⟨fun _ => ⟨rfl, rfl⟩, fun _ => rfl⟩
    | exact .ite (fun _ => .pure ⟨fun _ => ⟨rfl, rfl⟩, fun _ => rfl⟩) fun _ =>
        .bind (keepFirst_gives _) fun _ _ => .pure ⟨fun _ => ⟨rfl, rfl⟩, fun _ => rfl⟩

/-- the walk over the payloads ends, whatever lies behind the buffer -/
theorem kinkDecodePayloadList_gives (inEncrypt : Bool) (fuel : Nat) :
    ∀ kh p nptype remlen padding, remlen < 2 ^ 64 → remlen < fuel →
      (kinkDecodePayloadList m inEncrypt fuel kh p nptype remlen padding).Gives
        fun r => Keeps inEncrypt kh r.2 := by
  induction fuel with
  | zero => intro _ _ _ _ _ _ hfuel; omega
  | succ fuel ih =>
    intro kh p nptype remlen padding hlt hfuel
    have hsize : payloadSize = 4 := rfl
    have hstop : ∀ ok code, (pure (ok, { kh with errorCode := code }) : Walk (Bool × Decoded)).Gives
        fun r => Keeps inEncrypt kh r.2 :=
      fun ok code => .pure ⟨fun _ => ⟨rfl, rfl⟩, fun _ => rfl⟩
    refine .ite (fun _ => hstop true kh.errorCode) fun _ => .ite (fun _ => hstop _ _) fun hge => ?_
    refine .bind (.sub _ _) fun left hv => .ite (fun _ => hstop _ _) fun hhead => ?_
    rw [usub_of_le hlt (by omega)] at hv
    refine .bind (P := fun _ => True) (.bind (.copy m _ _) fun _ _ => .pure trivial) fun len _ => ?_
    refine .ite (fun _ => hstop _ _) fun hlen => ?_
    refine .bind (decodePayload_gives _ _ _) fun r hr => .ite (fun _ => .pure hr) fun _ => ?_
    refine .bind (.read m _) fun next _ => .bind (.sub _ _) fun left' hv' => ?_
    rw [usub_of_le (by omega) (by omega)] at hv'
    have hrest := ih r.2 (align (p + max len payloadSize)) next.toNat left'
      (align (max len payloadSize) - max len payloadSize) (by omega) (by omega)
    exact ⟨hrest.1, fun x hx => hr.trans (hrest.2 x hx)⟩

/-- the body of KINK_ENCRYPT does not take an AP_REP away -/
theorem decodeEncrypted_gives (kh : Decoded) :
    (decodeEncrypted m kh).Gives fun r => kh.payloads.apRep ≠ none →
      r.2.payloads.apRep = kh.payloads.apRep := by
  refine .bind (.read m _) fun nptype _ => .bind (.sub _ _) fun remlen hv => ?_
  have hlist := kinkDecodePayloadList_gives (m := m) true (remlen + 1) kh encryptSize nptype.toNat
    remlen 0 (hv ▸ usub_lt _ _) (Nat.lt_succ_self _)
  exact ⟨hlist.1, fun r hr => (hlist.2 r hr).apRep⟩

/-- the decoder ends, with the XID of the packet, and marks no payload as encrypted -/
theorem kinkDecodeGeneric_gives (h : headerSize ≤ m.size) (kh : Decoded) :
    (kinkDecodeGeneric m kh).Gives
      fun r => r.2.xid = be32 m.octets 8 ∧ r.2.encrypted = kh.encrypted := by
  have hsize : headerSize = 16 := rfl
  have hfield : ∀ p, (field16 m p).Gives fun _ => True := fun p =>
    .bind (.copy m _ _) fun _ _ => .pure trivial
  refine .bind (field32_within (by omega)).gives fun xid hxid => .bind (.read m _) fun flags _ => ?_
  refine .bind (P := fun _ => True) ?check fun errorCode _ => ?_
  case check =>
    refine .ite (fun _ => .pure trivial) fun _ => .bind (hfield _) fun msglen _ => ?_
    refine .ite (fun _ => .pure trivial) fun _ => .bind (.sub _ _) fun rest _ => ?_
    refine .bind (hfield _) fun cksumLen _ => .ite (fun _ => .pure trivial) fun _ => ?_
    refine .bind (.read m _) fun ver _ => .ite (fun _ => .pure trivial) fun _ => ?_
    refine .ite (fun _ => .pure trivial) fun _ => .bind (field32_within (by omega)).gives ?_
    exact fun doi _ => .ite (fun _ => .pure trivial) fun _ => .pure trivial
  refine .ite (fun _ => .pure ⟨hxid, rfl⟩) fun _ => .bind (hfield _) fun cksumLen _ => ?_
  refine .bind (.sub _ _) fun rest _ => .bind (.sub _ _) fun remlen hv => ?_
  refine .bind (.read m _) fun nptype _ => ?_
  have hlist := kinkDecodePayloadList_gives (m := m) false (remlen + 1)
    { kh with xid := xid, flags := flags.toNat, errorCode := errorCode } headerSize nptype.toNat
    remlen 0 (hv ▸ usub_lt _ _) (Nat.lt_succ_self _)
  refine ⟨hlist.1, fun r hr => ?_⟩
  have hr := (hlist.2 r hr).outside rfl
  exact ⟨hr.1.trans hxid, hr.2⟩

/-! ## the packets that are received -/

/-- lengths of the header that leave room for the header and the checksum -/
structure LengthsFit (m : Memory) : Prop where
  header : headerSize ≤ be16 m.octets 2
  message : be16 m.octets 2 ≤ m.size
  cksum : headerSize + be16 m.octets 14 ≤ be16 m.octets 2

theorem kinkDecodeCheckGeneric_within (h : headerSize ≤ m.size)
    (hlen : headerSize ≤ be16 m.octets 2) :
    (kinkDecodeCheckGeneric m).Within m.size (fun e => e = 0 → LengthsFit m) := by
  have hbound := be16_lt m.octets 2
  have hsize : headerSize = 16 := rfl
  have herr : ∀ e, e ≠ 0 → (pure e : Walk Nat).Within m.size (fun e => e = 0 → LengthsFit m) :=
    fun e he => .pure fun h => absurd h he
  refine .ite (fun _ => herr _ (by decide)) fun _ => ?_
  refine .bind (field16_within (by omega)) fun msglen hv => .ite (fun _ => herr _ (by decide)) ?_
  subst hv
  refine fun hmsg => .bind (.sub (by omega) hlen) fun rest hv => ?_
  subst hv
  refine .bind (field16_within (by omega)) fun cksumLen hv => ?_
  refine .ite (fun _ => herr _ (by decide)) fun hcksum => ?_
  subst hv
  have hfit : LengthsFit m := ⟨hlen, by omega, by omega⟩
  refine .bind (.read (by omega)) fun ver _ => .ite (fun _ => herr _ (by decide)) fun _ => ?_
  refine .ite (fun _ => herr _ (by decide)) fun _ => .bind (field32_within (by omega)) fun doi _ => ?_
  exact .ite (fun _ => herr _ (by decide)) fun _ => .pure fun _ => hfit

theorem kinkDecodeGeneric_within (h : headerSize ≤ m.size) (hlen : headerSize ≤ be16 m.octets 2)
    (kh : Decoded) :
    (kinkDecodeGeneric m kh).Within m.size (fun r => r.1 = true → LengthsFit m) := by
  have hmem : m.size < 2 ^ 64 := m.octets_length
  have hsize : headerSize = 16 := rfl
  refine .bind (field32_within (by omega)) fun xid _ => .bind (.read (by omega)) fun flags _ => ?_
  refine .bind (kinkDecodeCheckGeneric_within h hlen) fun errorCode hfit => ?_
  refine .ite (fun _ => .pure fun h => nomatch h) fun hok => ?_
  have hfit := hfit (not_not.mp hok)
  have hin := hfit.cksum
  have hmsg := hfit.message
  refine .bind (field16_within (by omega)) fun cksumLen hv => ?_
  subst hv
  refine .bind (.sub hmem h) fun rest hv => ?_
  subst hv
  refine .bind (.sub (by omega) (by omega)) fun remlen hv => ?_
  subst hv
  refine .bind (.read (by omega)) fun nptype _ => ?_
  have hlist := kinkDecodePayloadList_within (m := m) false (m.size - headerSize - be16 m.octets 14 + 1)
    { kh with xid := xid, flags := flags.toNat, errorCode := errorCode } headerSize nptype.toNat
    (m.size - headerSize - be16 m.octets 14) 0 (by decide) (by omega) (Nat.zero_le _) (by omega)
    (Nat.lt_succ_self _)
  exact ⟨⟨hlist.gives.1, fun _ _ _ => hfit⟩, hlist.inside⟩

theorem kinkDecodeVerifyChecksum_within (hfit : LengthsFit m)
    (verify : Option (Bytes → Bytes → Bool)) :
    (kinkDecodeVerifyChecksum m verify).Within m.size (fun _ => True) := by
  have hsize : headerSize = 16 := rfl
  have hin := hfit.cksum
  have hmsg := hfit.message
  have hbound := be16_lt m.octets 2
  refine .bind (field16_within (by omega)) fun msglen hv => ?_
  subst hv
  refine .bind (field16_within (by omega)) fun cksumLen hv => ?_
  subst hv
  refine .ite (fun _ => .pure trivial) fun _ => ?_
  cases verify with
  | none => exact .pure trivial
  | some verify =>
    dsimp only
    refine .bind (.sub (by omega) (by omega)) fun len hv => ?_
    subst hv
    rw [usub_of_le (by omega) (by omega)]
    exact .bind (.copy (by omega)) fun _ _ => .bind (.copy (by omega)) fun _ _ => .pure trivial

theorem decodeEncrypted_within (h : encryptSize ≤ m.size) (kh : Decoded) :
    (decodeEncrypted m kh).Within m.size (fun _ => True) := by
  have hmem : m.size < 2 ^ 64 := m.octets_length
  have hsize : encryptSize = 4 := rfl
  refine .bind (.read (by omega)) fun inNptype _ => .bind (.sub hmem h) fun remlen hv => ?_
  subst hv
  exact kinkDecodePayloadList_within true _ _ _ _ _ _ (by decide) (by omega) (Nat.zero_le _)
    (by omega) (Nat.lt_succ_self _)

end

/-- a datagram that `read_udp_packet` accepts, and what lies behind its packet in memory -/
structure Received where
  datagram : Bytes
  packet : Bytes
  accepted : readUdpPacket datagram = some packet
  beyond : Nat → UInt8

namespace Received

variable (r : Received)

/-- the length field of the header -/
def length : Nat := be16 r.datagram 2

theorem packet_eq : headerSize ≤ r.datagram.length ∧ r.length ≤ maxPacketSize ∧
    r.packet = r.datagram.take (r.length + 1) := by
  have h := r.accepted
  unfold readUdpPacket at h
  split at h
  · cases h
  split at h
  · cases h
  · exact ⟨by omega, by unfold length; omega, (Option.some.inj h).symm⟩

theorem packet_length : r.packet.length = min (r.length + 1) r.datagram.length := by
  rw [r.packet_eq.2.2, List.length_take]

def memory : Memory where
  octets := r.packet
  beyond := r.beyond
  octets_length := by
    have h := r.packet_eq.2.1
    have hmax : maxPacketSize = 16384 := rfl
    rw [r.packet_length]
    omega

/-- `kink_decode_get_msgtype` is -1, and `receive` drops the packet -/
def Dropped : Prop := r.memory.size < headerSize

/-- the packet of a datagram that is not dropped begins with the header -/
theorem memory_length (h : ¬ r.Dropped) : be16 r.memory.octets 2 = r.length := by
  have hsize : headerSize ≤ r.packet.length := Nat.le_of_not_lt h
  have hlen := r.packet_length
  show be16 r.packet 2 = be16 r.datagram 2
  rw [r.packet_eq.2.2]
  unfold be16
  rw [byteAt_take _ _ _ (by unfold headerSize at hsize; omega),
    byteAt_take _ _ _ (by unfold headerSize at hsize; omega)]

end Received

/-- what is to hold of the decoder for a packet and for a decrypted body; the checksum is verified
only after `kink_decode_generic` returned 0 -/
structure DecoderMeets (r : Received) (body : Memory) : Prop where
  generic : ¬ r.Dropped → ∀ kh, (kinkDecodeGeneric r.memory kh).Inside r.memory.size
  checksum : ¬ r.Dropped → ∀ kh kh', (kinkDecodeGeneric r.memory kh).outcome = .done (true, kh') →
    ∀ verify, (kinkDecodeVerifyChecksum r.memory verify).Inside r.memory.size
  encrypted : ∀ kh, (decodeEncrypted body kh).Inside body.size

theorem field16_outcome {m : Memory} {p : Nat} (h : p + 2 ≤ m.size) :
    (field16 m p).outcome = .done (be16 m.octets p) := by
  have hcopy : (field16 m p).outcome = .done (be16 (m.copy p 2) 0) := rfl
  rw [hcopy, m.copy_inside h, be16_slice _ (Nat.le_refl _), Nat.add_zero]

/-- a header that says one octet less than it has makes the message shorter than its header -/
theorem kinkDecodeGeneric_past {m : Memory} (h : m.size = headerSize)
    (hlen : be16 m.octets 2 < headerSize) (kh : Decoded) :
    (kinkDecodeGeneric m kh).Past m.size := by
  have hsize : headerSize = 16 := rfl
  have hcheck : (kinkDecodeCheckGeneric m).Past m.size := by
    unfold kinkDecodeCheckGeneric
    rw [if_neg (by omega)]
    refine .after (field16_outcome (by omega)) ?_
    rw [if_neg (by omega)]
    exact (Walk.Past.sub hlen).bind
  exact .after (a := be32 (m.copy 8 4) 0) rfl (.after (a := m.byte 13) rfl hcheck.bind)

/-- the decoder keeps inside the packet and the body, with no length below zero, exactly when the
length field is not one less than the header has and the body has a header -/
theorem decoder_meets_iff (r : Received) (body : Memory) :
    DecoderMeets r body ↔ r.length ≠ 15 ∧ encryptSize ≤ body.size := by
  have hsize : headerSize = 16 := rfl
  have hpacket : r.memory.size = min (r.length + 1) r.datagram.length := r.packet_length
  have hdatagram := r.packet_eq.1
  constructor
  · intro h
    constructor
    · intro hlen
      have hkeep : ¬ r.Dropped := by unfold Received.Dropped; omega
      have hpast := kinkDecodeGeneric_past (m := r.memory) (by omega)
        (by rw [r.memory_length hkeep]; omega) ⟨0, 0, 0, releasePayloads, ⟨false, false, false⟩⟩
      exact Walk.not_inside_iff.mpr hpast (h.generic hkeep _)
    · by_contra hshort
      have hpast : (decodeEncrypted body ⟨0, 0, 0, releasePayloads, ⟨false, false, false⟩⟩).Past
          body.size :=
        .after (a := body.byte 0) rfl (Walk.Past.sub (Nat.lt_of_not_le hshort)).bind
      exact Walk.not_inside_iff.mpr hpast (h.encrypted _)
  · rintro ⟨hlen, hbody⟩
    have hgeneric : ¬ r.Dropped → ∀ kh, (kinkDecodeGeneric r.memory kh).Within r.memory.size
        (fun x => x.1 = true → LengthsFit r.memory) := by
      intro hkeep kh
      have hhead : headerSize ≤ r.memory.size := Nat.le_of_not_lt hkeep
      exact kinkDecodeGeneric_within hhead (by rw [r.memory_length hkeep]; omega) kh
    refine ⟨fun hkeep kh => (hgeneric hkeep kh).inside, fun hkeep kh kh' hdone verify => ?_,
      fun kh => (decodeEncrypted_within hbody kh).inside⟩
    have hfit := (hgeneric hkeep kh).gives.2 _ hdone rfl
    exact (kinkDecodeVerifyChecksum_within hfit verify).inside

/-- a REPLY of 16 octets whose header says 15 -/
def shortHeader : Received where
  datagram := [3, 0x10, 0, 15, 0, 0, 0, 1, 0, 0, 0, 1, 0, 0, 0, 1]
  packet := [3, 0x10, 0, 15, 0, 0, 0, 1, 0, 0, 0, 1, 0, 0, 0, 1]
  accepted := by decide
  beyond := fun _ => 0

def oneOctet : Memory := ⟨[0], fun _ => 0, by decide⟩

theorem short_header_wraps :
    ¬ DecoderMeets shortHeader oneOctet
    ∧ (kinkDecodeGeneric shortHeader.memory
        ⟨0, 0, 0, releasePayloads, ⟨false, false, false⟩⟩).Past shortHeader.memory.size
    ∧ (decodeEncrypted oneOctet ⟨0, 0, 0, releasePayloads, ⟨false, false, false⟩⟩).Past
        oneOctet.size := by
  have hpast := kinkDecodeGeneric_past (m := shortHeader.memory) (by decide) (by decide)
    ⟨0, 0, 0, releasePayloads, ⟨false, false, false⟩⟩
  have hbody : (decodeEncrypted oneOctet ⟨0, 0, 0, releasePayloads, ⟨false, false, false⟩⟩).Past
      oneOctet.size :=
    .after (a := 0) rfl (Walk.Past.sub (by decide)).bind
  refine ⟨fun h => Walk.not_inside_iff.mpr hpast (h.generic (by unfold Received.Dropped; decide) _),
    hpast, hbody⟩

end Kink
