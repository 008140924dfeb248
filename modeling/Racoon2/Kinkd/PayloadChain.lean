import Racoon2.Kinkd.Encode

/-!
# Payloads in a row

Encoder and decoder meet at payloads in a row: the encoder makes such a row behind the header and inside
KINK_ENCRYPT, and the decoder takes every such row.

* `Chain`                        payloads in a row in the octets;
* `kinkDecodePayloadList_chain`  the decoder takes them;
* `chain_of_encoder`             the encoder makes them;
* `kinkDecodeGeneric_message`, `kinkDecodeVerifyChecksum_message`: a whole message.
-/

set_option linter.unusedVariables false

namespace Kink
open Bytes

/-! ## payloads in a row, as the decoder meets them -/

/-- the payloads that stand in the octets from `p` on, in front of `stop`; `nptype` is the Next Payload field
in front of them -/
inductive Chain (octets : Bytes) (stop : Nat) : Nat → Nat → List TypedBody → Prop where
  | done {p : Nat} : Chain octets stop p 0 []
  | cons {p : Nat} {data : TypedBody} {rest : List TypedBody} :
      p % 4 = 0 → be16 octets (p + 2) = payloadSize + data.2.length →
      slice octets (p + payloadSize) data.2.length = data.2 → p + payloadSize + data.2.length ≤ stop →
      Chain octets stop (align (p + payloadSize + data.2.length)) (byteAt octets p).toNat rest →
      Chain octets stop p data.1.toNat (data :: rest)

/-- the types that the decoder keeps -/
def Known (t : UInt8) : Prop := t = 1 ∨ t = 2 ∨ t = 3 ∨ t = 6 ∨ t = 7 ∨ t = 8

/-- the first body of a type is kept -/
def orElse (old : Option Bytes) (body : Bytes) : Option Bytes := if old ≠ none then old else some body

/-- the `switch`, for a payload that is there -/
def keep (inEncrypt : Bool) (kh : Decoded) (data : TypedBody) : Decoded :=
  match data.1.toNat with
  | 1 => { kh with payloads := { kh.payloads with apReq := orElse kh.payloads.apReq data.2 } }
  | 2 => { kh with payloads := { kh.payloads with apRep := orElse kh.payloads.apRep data.2 } }
  | 3 => { kh with
      payloads := { kh.payloads with krbError := orElse kh.payloads.krbError data.2 }
      encrypted := { kh.encrypted with
        krbError := kh.encrypted.krbError || (inEncrypt && kh.payloads.krbError.isNone) } }
  | 6 => { kh with
      payloads := { kh.payloads with isakmp := orElse kh.payloads.isakmp data.2 }
      encrypted := { kh.encrypted with
        isakmp := kh.encrypted.isakmp || (inEncrypt && kh.payloads.isakmp.isNone) } }
  | 7 => if inEncrypt then kh
      else { kh with payloads := { kh.payloads with encrypt := orElse kh.payloads.encrypt data.2 } }
  | 8 => { kh with
      payloads := { kh.payloads with error := orElse kh.payloads.error data.2 }
      encrypted := { kh.encrypted with
        error := kh.encrypted.error || (inEncrypt && kh.payloads.error.isNone) } }
  | _ => kh

section
variable {m : Memory} {p : Nat}

theorem outcome_bind {α β : Type} {x : Walk α} {f : α → Walk β} {a : α} (h : x.outcome = .done a) :
    (x >>= f).outcome = (f a).outcome := by
  rw [Walk.bind_done h]

theorem sub_outcome {a b : Nat} (ha : a < 2 ^ 64) (h : b ≤ a) : (Walk.sub a b).outcome = .done (a - b) :=
  congrArg Outcome.done (usub_of_le ha h)

theorem getKinkPayload_outcome {body : Bytes} (hlen : be16 m.octets (p + 2) = payloadSize + body.length)
    (hbody : slice m.octets (p + payloadSize) body.length = body)
    (hin : p + payloadSize + body.length ≤ m.size) :
    (getKinkPayload m p).outcome = .done (some body) := by
  have hbound := be16_lt m.octets (p + 2)
  have hsize : payloadSize = 4 := rfl
  unfold getKinkPayload
  rw [outcome_bind (field16_outcome (by omega)), hlen, if_neg (by omega),
    outcome_bind (sub_outcome (by omega) (by omega)), Nat.add_sub_cancel_left]
  have hcopy : (Walk.copy m (p + payloadSize) body.length).outcome = .done body := by
    have h := (Walk.Returns.copy (m := m) (p := p + payloadSize) (k := body.length) (by omega)).done
    rw [hbody] at h
    exact h
  rw [outcome_bind hcopy]
  rfl

theorem keepFirst_outcome {body : Bytes} (h : (getKinkPayload m p).outcome = .done (some body))
    (old : Option Bytes) : (keepFirst m p old).outcome = .done (orElse old body) := by
  unfold keepFirst orElse
  split_ifs with hold
  · rfl
  · exact h

theorem decodePayload_outcome {data : TypedBody} (h : (getKinkPayload m p).outcome = .done (some data.2))
    (hknown : Known data.1) (inEncrypt : Bool) (kh : Decoded) :
    (decodePayload m inEncrypt kh data.1.toNat p).outcome = .done (true, keep inEncrypt kh data) := by
  have hkeep := keepFirst_outcome h
  obtain ⟨t, body⟩ := data
  unfold decodePayload keep
  rcases hknown with rfl | rfl | rfl | rfl | rfl | rfl
  · exact outcome_bind (hkeep _)
  · exact outcome_bind (hkeep _)
  · exact outcome_bind (hkeep _)
  · exact outcome_bind (hkeep _)
  · cases inEncrypt with
    | true => rfl
    | false => exact outcome_bind (hkeep _)
  · exact outcome_bind (hkeep _)

theorem Known.ne_zero {t : UInt8} (h : Known t) : t.toNat ≠ 0 := by
  rcases h with rfl | rfl | rfl | rfl | rfl | rfl <;> decide

/-- the decoder takes all payloads in a row. `remlen` counts up to `stop`, with the padding in front of `p` -/
theorem kinkDecodePayloadList_chain {stop nptype : Nat} {payloads : List TypedBody} (inEncrypt : Bool)
    (h : Chain m.octets stop p nptype payloads) (hknown : ∀ data ∈ payloads, Known data.1)
    (hstop : stop ≤ m.size) (fuel : Nat) (kh : Decoded) (remlen padding : Nat)
    (hrem : p + remlen = stop + padding) (hpad : padding ≤ p) (hfuel : payloads.length < fuel) :
    (kinkDecodePayloadList m inEncrypt fuel kh p nptype remlen padding).outcome =
      .done (true, payloads.foldl (keep inEncrypt) kh) := by
  have hmem : m.size < 2 ^ 64 := m.octets_length
  have hsize : payloadSize = 4 := rfl
  induction h generalizing fuel kh remlen padding with
  | done =>
    obtain ⟨fuel, rfl⟩ := Nat.exists_eq_succ_of_ne_zero (Nat.ne_of_gt hfuel)
    rfl
  | @cons p data rest halign hlen hbody hend hrest ih =>
    have hpos : 0 < fuel := Nat.lt_of_le_of_lt (Nat.zero_le _) hfuel
    obtain ⟨fuel, rfl⟩ := Nat.exists_eq_succ_of_ne_zero (Nat.ne_of_gt hpos)
    have hknow := hknown data List.mem_cons_self
    have hget := getKinkPayload_outcome hlen hbody (by omega)
    have hread : (Walk.read m p).outcome = .done (byteAt m.octets p) :=
      (Walk.Returns.read (by omega)).done
    have hmax : max (payloadSize + data.2.length) payloadSize = payloadSize + data.2.length := by omega
    have hup := align_bounds (payloadSize + data.2.length)
    have hnext : align (p + payloadSize + data.2.length) = p + align (payloadSize + data.2.length) := by
      rw [Nat.add_assoc, align_add halign]
    rw [kinkDecodePayloadList, if_neg hknow.ne_zero, if_neg (by omega),
      outcome_bind (sub_outcome (by omega) (by omega)), if_neg (by omega),
      outcome_bind (field16_outcome (by omega)), hlen, if_neg (by omega),
      outcome_bind (decodePayload_outcome hget hknow inEncrypt kh)]
    dsimp only
    rw [if_neg (by decide), outcome_bind hread, hmax, outcome_bind (sub_outcome (by omega) (by omega)),
      ← Nat.add_assoc]
    exact ih (fun x hx => hknown x (List.mem_cons_of_mem data hx)) fuel _ _ _ (by omega) (by omega)
      (Nat.lt_of_succ_lt_succ hfuel)

end

/-! ## the payloads of the encoder -/

/-- the fields of a payload behind other octets -/
theorem payload_fields (front : Bytes) (nptype : UInt8) (body tail : Bytes)
    (hfit : payloadSize + body.length < 65536) :
    be16 (front ++ (payload nptype body ++ tail)) (front.length + 2) = payloadSize + body.length ∧
      slice (front ++ (payload nptype body ++ tail)) (front.length + payloadSize) body.length = body ∧
      byteAt (front ++ (payload nptype body ++ tail)) front.length = nptype := by
  refine ⟨?_, ?_, ?_⟩
  · rw [be16_append_right]
    exact be16_enc16 hfit (body ++ tail)
  · rw [slice_append_right]
    exact slice_zero_append body tail body.length rfl
  · exact byteAt_append_right front (payload nptype body ++ tail) 0

theorem chain_cons_length (data next : TypedBody) (rest : List TypedBody) :
    (chain (data :: next :: rest)).length =
      align (payloadSize + data.2.length) + (chain (next :: rest)).length := by
  rw [chain, List.length_append, pad_length, payload_length]
  rfl

theorem chain_of_encoder (outer : List TypedBody) (hfit : ∀ data ∈ outer, payloadSize + data.2.length < 65536)
    (front tail : Bytes) (hfront : front.length % 4 = 0) :
    Chain (front ++ (chain outer ++ tail)) (front.length + (chain outer).length) front.length
      (firstType outer).toNat outer := by
  induction outer generalizing front with
  | nil => exact .done
  | cons data rest ih =>
    have hdata := hfit data List.mem_cons_self
    cases rest with
    | nil =>
      obtain ⟨hlen, hbody, hnext⟩ := payload_fields front 0 data.2 tail hdata
      have hend : front.length + payloadSize + data.2.length ≤ front.length + (chain [data]).length := by
        rw [chain, payload_length, Nat.add_assoc]
        exact Nat.le_refl _
      refine Chain.cons hfront hlen hbody hend ?_
      have hlast : byteAt (front ++ (chain [data] ++ tail)) front.length = 0 := hnext
      rw [hlast]
      exact .done
    | cons next rest =>
      have hsplit : front ++ (chain (data :: next :: rest) ++ tail) =
          front ++ (payload next.1 data.2 ++ (List.replicate (align (payload next.1 data.2).length -
            (payload next.1 data.2).length) 0 ++ (chain (next :: rest) ++ tail))) := by
        rw [chain, pad, List.append_assoc, List.append_assoc]
      have hjoin : front ++ (chain (data :: next :: rest) ++ tail) =
          (front ++ pad (payload next.1 data.2)) ++ (chain (next :: rest) ++ tail) := by
        rw [chain, List.append_assoc, List.append_assoc]
      have hup := align_bounds (payloadSize + data.2.length)
      have hlength : (front ++ pad (payload next.1 data.2)).length =
          front.length + align (payloadSize + data.2.length) := by
        rw [List.length_append, pad_length, payload_length]
        rfl
      have hih := ih (fun x hx => hfit x (List.mem_cons_of_mem data hx)) (front ++ pad (payload next.1 data.2))
        (by rw [hlength]; omega)
      rw [← hjoin, hlength, Nat.add_assoc, ← chain_cons_length] at hih
      obtain ⟨hlen, hbody, hnext⟩ := payload_fields front next.1 data.2 _ hdata
      rw [← hsplit] at hlen hbody hnext
      have hplace : align (front.length + payloadSize + data.2.length) =
          front.length + align (payloadSize + data.2.length) := by
        rw [Nat.add_assoc, align_add hfront]
      refine Chain.cons hfront hlen hbody ?_ ?_
      · rw [chain_cons_length]
        omega
      · rw [hnext, hplace]
        exact hih

theorem Chain.mono {octets : Bytes} {stop stop' p nptype : Nat} {payloads : List TypedBody}
    (h : Chain octets stop p nptype payloads) (hle : stop ≤ stop') : Chain octets stop' p nptype payloads := by
  induction h with
  | done => exact .done
  | cons halign hlen hbody hend hrest ih => exact .cons halign hlen hbody (Nat.le_trans hend hle) ih

theorem length_le_chain (outer : List TypedBody) : outer.length ≤ (chain outer).length := by
  induction outer with
  | nil => exact Nat.le_refl 0
  | cons data rest ih =>
    cases rest with
    | nil =>
      rw [chain, payload_length, List.length_singleton]
      omega
    | cons next rest =>
      have hup := align_bounds (payloadSize + data.2.length)
      have hsize : payloadSize = 4 := rfl
      rw [chain_cons_length, List.length_cons]
      omega

/-- the fields of a header -/
theorem header_fields (msgtype nptype flags : UInt8) {length xid cksumLen : Nat} (rest : Bytes)
    (hxid : xid < 2 ^ 32) (hlength : length < 65536) (hcksum : cksumLen < 65536) :
    be16 (header msgtype length xid nptype flags cksumLen ++ rest) 2 = length ∧
      be16 (header msgtype length xid nptype flags cksumLen ++ rest) 14 = cksumLen ∧
      be32 (header msgtype length xid nptype flags cksumLen ++ rest) 4 = 1 ∧
      be32 (header msgtype length xid nptype flags cksumLen ++ rest) 8 = xid :=
  ⟨be16_enc16 hlength [], be16_enc16 hcksum [], be32_enc32 (n := 1) (by decide) [], be32_enc32 hxid []⟩

section
variable {m : Memory}

/-- the decoder takes a message whose header tells its length -/
theorem kinkDecodeGeneric_message {msgtype nptype flags : UInt8} {length xid cksumLen : Nat} {rest : Bytes}
    {outer : List TypedBody} (hoctets : m.octets = header msgtype length xid nptype flags cksumLen ++ rest)
    (hxid : xid < 2 ^ 32) (hlength : length < 65536) (hmsg : m.size = length) (hcksum : 16 + cksumLen ≤ length)
    (hchain : Chain m.octets (length - cksumLen) 16 nptype.toNat outer)
    (hknown : ∀ data ∈ outer, Known data.1) (hcount : 16 + cksumLen + outer.length ≤ length) (kh : Decoded) :
    (kinkDecodeGeneric m kh).outcome = .done (true, outer.foldl (keep false)
      { kh with xid := xid, flags := flags.toNat, errorCode := 0 }) := by
  have hsize : headerSize = 16 := rfl
  have hcksum' : cksumLen < 65536 := by omega
  obtain ⟨hlen2, hck, hdoi, hxid'⟩ := header_fields msgtype nptype flags rest hxid hlength hcksum'
  rw [← hoctets] at hlen2 hck hdoi hxid'
  have hbyte : ∀ {i : Nat} {v : UInt8}, byteAt m.octets i = v → i < 16 →
      (Walk.read m i).outcome = .done v := by
    intro i v hv hi
    rw [← hv]
    exact (Walk.Returns.read (by omega)).done
  have hfield16 : ∀ {i v : Nat}, be16 m.octets i = v → i + 2 ≤ 16 → (field16 m i).outcome = .done v := by
    intro i v hv hi
    rw [← hv]
    exact field16_outcome (by omega)
  have hfield32 : ∀ {i v : Nat}, be32 m.octets i = v → i + 4 ≤ 16 → (field32 m i).outcome = .done v := by
    intro i v hv hi
    have hcopy : (field32 m i).outcome = .done (be32 (m.copy i 4) 0) := rfl
    rw [hcopy, m.copy_inside (by omega), be32_slice _ (Nat.le_refl _), Nat.add_zero, hv]
  have hcheck : (kinkDecodeCheckGeneric m).outcome = .done 0 := by
    unfold kinkDecodeCheckGeneric
    rw [if_neg (by omega), outcome_bind (hfield16 hlen2 (by omega)), if_neg (by omega),
      outcome_bind (sub_outcome (by omega) (by omega)), outcome_bind (hfield16 hck (by omega)),
      if_neg (by omega), outcome_bind (hbyte (v := 0x10) (by rw [hoctets]; rfl) (by omega)),
      if_neg (by decide), if_neg (by decide), outcome_bind (hfield32 hdoi (by omega))]
    rfl
  unfold kinkDecodeGeneric
  rw [outcome_bind (hfield32 hxid' (by omega)),
    outcome_bind (hbyte (v := flags) (by rw [hoctets]; rfl) (by omega)), outcome_bind hcheck]
  dsimp only
  rw [if_neg (by decide), outcome_bind (hfield16 hck (by omega)),
    outcome_bind (sub_outcome (by omega) (by omega)), outcome_bind (sub_outcome (by omega) (by omega)),
    outcome_bind (hbyte (v := nptype) (by rw [hoctets]; rfl) (by omega))]
  exact kinkDecodePayloadList_chain false hchain hknown (by omega) _ _ _ 0 (by omega) (Nat.zero_le _) (by omega)

/-- the checksum is taken back from the end, and the lengths are those of a message without it -/
theorem kinkDecodeVerifyChecksum_message {Ctx : Type} {kh : Outgoing Ctx} {msgtype : UInt8}
    {outer : List TypedBody} {cksum : Bytes} {n : Nat} (hn : n = align (16 + (chain outer).length))
    (hoctets : m.octets = pad (wire kh msgtype outer (n + cksum.length) cksum.length) ++ cksum)
    (hlength : n + cksum.length < 65536) (hpos : 0 < cksum.length) (verify : Bytes → Bytes → Bool)
    (hverify : verify (pad (wire kh msgtype outer n 0)) cksum = true) :
    (kinkDecodeVerifyChecksum m (some verify)).outcome = .done true := by
  have hfront : ∀ length cksumLen, (pad (wire kh msgtype outer length cksumLen)).length = n := by
    intro length cksumLen
    rw [pad_length, wire_length, hn]
  have hsize : m.size = n + cksum.length := by
    show m.octets.length = _
    rw [hoctets, List.length_append, hfront]
  have hhead : ∃ rest, m.octets = header msgtype (n + cksum.length) kh.xid (firstType outer)
      (UInt8.ofNat kh.flags) cksum.length ++ rest := by
    refine ⟨chain outer ++ (List.replicate (align (16 + (chain outer).length) - (16 + (chain outer).length)) 0
      ++ cksum), ?_⟩
    rw [hoctets]
    unfold pad
    rw [wire_length]
    unfold wire
    simp only [List.append_assoc]
  obtain ⟨rest, hhead⟩ := hhead
  obtain ⟨hlen2, hck, -, -⟩ := header_fields msgtype (firstType outer) (UInt8.ofNat kh.flags) rest
    kh.xid_lt hlength (Nat.lt_of_le_of_lt (Nat.le_add_left _ _) hlength)
  rw [← hhead] at hlen2 hck
  have hroom : 16 ≤ n := by
    have hup := align_bounds (16 + (chain outer).length)
    omega
  have hbody : slice m.octets 0 n = pad (wire kh msgtype outer (n + cksum.length) cksum.length) := by
    rw [hoctets]
    exact slice_zero_append _ _ _ (hfront _ _)
  have htail : slice m.octets n cksum.length = cksum := by
    have hskip := slice_append_right (pad (wire kh msgtype outer (n + cksum.length) cksum.length)) cksum 0
      cksum.length
    rw [hfront, Nat.add_zero, ← hoctets] at hskip
    rw [hskip]
    unfold slice
    rw [List.drop_zero, List.take_length]
  have hcopy : ∀ {p k : Nat} {v : Bytes}, slice m.octets p k = v → p + k ≤ m.size →
      (Walk.copy m p k).outcome = .done v := by
    intro p k v hv hin
    rw [← hv]
    exact (Walk.Returns.copy hin).done
  unfold kinkDecodeVerifyChecksum
  have h2 := field16_outcome (m := m) (p := 2) (by omega)
  have h14 := field16_outcome (m := m) (p := 14) (by omega)
  rw [hlen2] at h2
  rw [hck] at h14
  rw [outcome_bind h2, outcome_bind h14, if_neg (by omega)]
  dsimp only
  rw [outcome_bind (sub_outcome (by omega) (by omega)), usub_of_le (by omega) (by omega),
    Nat.add_sub_cancel, outcome_bind (hcopy hbody (by omega)), outcome_bind (hcopy htail (by omega))]
  have hset := put_wire_cksumLen kh msgtype outer n cksum.length 0
  rw [← put_wire_length kh msgtype outer (n + cksum.length) n] at hset
  rw [show ([0, 0] : Bytes) = enc16 0 from rfl, hset, hverify]
  rfl

end

end Kink
