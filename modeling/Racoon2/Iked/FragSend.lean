import Racoon2.Iked.Seal
import Racoon2.Iked.Replay

/-!
# Sending in fragments

`ikev2_frag_send`: an encrypted message is decrypted again, its inner payloads are cut into chunks
and every chunk is sealed in an SKF payload of its own.  The size of a chunk comes from an estimate
of what is added to it; the padding is chosen later, in `ikev2_encrypt`, and the IP and UDP headers
and the non-ESP marker come on top.

* `buildFragment_some`     a fragment is its front and what is sealed behind it;
* `fragSend_some`          what a message that is sent in fragments has passed;
* `datagrams_fit_iff`      when every datagram stays within the threshold.
-/

set_option linter.unusedVariables false

namespace Ikev2
open Bytes

/-! ## `ikev2_frag_send` -/

/-- the largest IP datagram that is aimed at -/
def fragThreshold : Family → Nat
  | .inet6 => 1280
  | .inet => 576

/-- `sizeof(struct ikev2payl_encrypted_fragment)` -/
def skfHeaderSize : Nat := 8

/-- the estimate of what a fragment adds to its chunk -/
def fragOverhead (c : Cipher) (a : Authenticator) : Nat :=
  headerSize + skfHeaderSize + c.ivLength + icvLength c.toEncryptor a + 16

/-- `ikev2_decrypt_local`: the keys of the other direction -/
def decryptLocal (sa : Sa) (packet : Bytes) : Option Bytes :=
  decrypt { sa with isInitiator := !sa.isInitiator } packet

/-- what is sent in fragments -/
structure FragPlan where
  /-- the decrypted message -/
  work : Bytes
  /-- the type of the first inner payload -/
  np : UInt8
  /-- the inner payloads -/
  inner : Bytes

/-- the first half of `ikev2_frag_send` -/
def fragPlan (sa : Sa) (packet : Bytes) : Option FragPlan :=
  match findEncrypted packet, decryptLocal sa packet with
  | some off, some work =>
    (findEncrypted work).map fun off' => ⟨work, byteAt packet off, work.drop (off' + 4)⟩
  | _, _ => none

/-- the IKE header of a fragment -/
def fragHeader (work : Bytes) (len : Nat) : Bytes :=
  put (put (work.take headerSize) 16 [payloadSkf]) 24 (enc32 len)

/-- the header of an SKF payload -/
def skfHeader (np : UInt8) (len no total : Nat) : Bytes :=
  [np, 0] ++ enc16 len ++ enc16 no ++ enc16 total

/-- one turn of the loop that builds the fragments -/
def buildFragment (c : Cipher) (a : Authenticator) (conf : PadConf) (draws : Draws)
    (encKey : Bytes) (authKey : Option Bytes) (work : Bytes) (np : UInt8) (no total : Nat)
    (chunk : Bytes) : Option Bytes :=
  if 0 < c.icvLength then
    let len := skfHeaderSize + c.ivLength + chunk.length + 1 + c.icvLength
    let front := fragHeader work (headerSize + len) ++ skfHeader np len no total
    (encrypt c conf draws encKey chunk front).map (front ++ ·)
  else
    match encrypt c conf draws encKey chunk [] with
    | none => none
    | some encrypted =>
      let len := skfHeaderSize + encrypted.length + a.outputLength
      let body := fragHeader work (headerSize + len) ++ skfHeader np len no total ++ encrypted
      match authKey.bind fun key => a.calculate key body with
      | none => none
      | some out => some (body ++ out.take a.outputLength)

/-- the chunk of fragment `no` -/
def chunkOf (inner : Bytes) (chunkMax total no : Nat) : Bytes :=
  slice inner ((no - 1) * chunkMax)
    (if no < total then chunkMax else inner.length - (no - 1) * chunkMax)

/-- the fragments of a planned message -/
def buildFragments (sa : SendSa) (c : Cipher) (a : Authenticator) (draws : Nat → Draws)
    (encKey : Bytes) (plan : FragPlan) (chunkMax total : Nat) : Option (List Bytes) :=
  (List.range' 1 total).mapM fun no =>
    buildFragment c a sa.padConf (draws no) encKey sa.sendAuthKey plan.work
      (if no = 1 then plan.np else 0) no total (chunkOf plan.inner chunkMax total no)

/-- `chunk_max` -/
def chunkMax (family : Family) (c : Cipher) (a : Authenticator) : Nat :=
  fragThreshold family - fragOverhead c a

/-- `total_frags` for `n` octets of inner payloads -/
def totalFrags (n chunkMax : Nat) : Nat := (n + chunkMax - 1) / chunkMax

/-- `ikev2_frag_send`: the fragments it sends; `socket` is what `isakmp_find_socket` found -/
def fragSend (sa : SendSa) (draws : Nat → Draws) (socket : Bool) (packet : Bytes) :
    Option (List Bytes) :=
  match sa.cipher, sa.authenticator, sa.sendEncKey, fragPlan sa.toSa packet with
  | some c, some a, some encKey, some plan =>
    let max := chunkMax sa.remoteEp.family c a
    let total := totalFrags plan.inner.length max
    if fragThreshold sa.remoteEp.family ≤ fragOverhead c a then none
    else if plan.inner.length = 0 ∨ max = 0 then none
    else if maxFrags < total ∨ total = 0 then none
    else if !socket then none
    else buildFragments sa c a draws encKey plan max total
  | _, _, _, _ => none

/-- the datagrams: with NAT traversal every one starts with the non-ESP marker -/
def fragDatagrams (natt : Bool) (frags : List Bytes) : List Bytes :=
  frags.map fun f => if natt then [0, 0, 0, 0] ++ f else f

/-- the IP and UDP headers of a datagram -/
def ipUdpHeaders : Family → Nat
  | .inet6 => 40 + 8
  | .inet => 20 + 8

/-! ## one fragment -/

/-- the IKE header and the SKF header of a fragment with `n` octets behind them -/
def skfFront (work : Bytes) (np : UInt8) (no total n : Nat) : Bytes :=
  fragHeader work (headerSize + (skfHeaderSize + n)) ++ skfHeader np (skfHeaderSize + n) no total

section
variable {c : Cipher} {a : Authenticator} {conf : PadConf} {draws : Draws} {encKey : Bytes}
  {authKey : Option Bytes} {work chunk f : Bytes} {np : UInt8} {no total : Nat}

theorem fragHeader_length (hwork : headerSize ≤ work.length) (len : Nat) :
    (fragHeader work len).length = headerSize := by
  have h28 : headerSize = 28 := rfl
  have htake : (work.take headerSize).length = headerSize := List.length_take_of_le hwork
  unfold fragHeader
  rw [put_length, put_length, htake]
  · rw [htake]
    exact Nat.le_of_ble_eq_true rfl
  · rw [put_length, htake]
    · exact Nat.le_of_ble_eq_true rfl
    · rw [htake]
      exact Nat.le_of_ble_eq_true rfl

theorem skfFront_length (hwork : headerSize ≤ work.length) (np : UInt8) (no total n : Nat) :
    (skfFront work np no total n).length = headerSize + skfHeaderSize := by
  unfold skfFront
  rw [List.length_append, fragHeader_length hwork]
  rfl

/-- the front, written with the payload length the code has computed -/
theorem skfFront_eq {len n : Nat} (h : len = skfHeaderSize + n) :
    fragHeader work (headerSize + len) ++ skfHeader np len no total
      = skfFront work np no total n := by
  subst h
  rfl

/-- with a combined-mode cipher: the front is the associated data, so its length is computed before
the chunk is sealed -/
theorem buildFragment_aead (hideal : c.Ideal) (haead : 0 < c.icvLength)
    (h : buildFragment c a conf draws encKey authKey work np no total chunk = some f) :
    ∃ iv ct plain, f = skfFront work np no total (iv ++ ct).length ++ (iv ++ ct)
      ∧ iv.length = c.ivLength
      ∧ ct.length = sealedLen c conf draws.uint32 chunk.length + c.icvLength
      ∧ c.decryptAead ct encKey iv (skfFront work np no total (iv ++ ct).length) = some plain
      ∧ stripPadding plain = some chunk := by
  unfold buildFragment at h
  rw [if_pos haead] at h
  obtain ⟨encrypted, henc, rfl⟩ := Option.map_eq_some_iff.mp h
  obtain ⟨iv, ct, plain, rfl, hiv, hct, hopens, hstrip⟩ := encrypt_opens hideal henc
  have hlen : skfHeaderSize + c.ivLength + chunk.length + 1 + c.icvLength
      = skfHeaderSize + (iv ++ ct).length := by
    rw [List.length_append, hiv, hct]
    unfold sealedLen padLen
    rw [if_pos haead]
    omega
  rw [if_pos haead, skfFront_eq hlen] at hopens
  rw [skfFront_eq hlen]
  exact ⟨iv, ct, plain, rfl, hiv, hct, hopens, hstrip⟩

/-- with a separate MAC, which covers the front and what is sealed -/
theorem buildFragment_mac (hideal : c.Ideal) (hmac : a.Ideal) (haead : ¬ 0 < c.icvLength)
    (h : buildFragment c a conf draws encKey authKey work np no total chunk = some f) :
    ∃ iv ct icv plain key out,
      f = skfFront work np no total (iv ++ ct ++ icv).length ++ (iv ++ ct ++ icv)
      ∧ iv.length = c.ivLength
      ∧ ct.length = sealedLen c conf draws.uint32 chunk.length + c.icvLength
      ∧ icv.length = a.outputLength
      ∧ c.decrypt ct encKey iv = some plain
      ∧ stripPadding plain = some chunk
      ∧ authKey = some key ∧ icv = out.take a.outputLength
      ∧ a.calculate key (skfFront work np no total (iv ++ ct ++ icv).length ++ (iv ++ ct))
          = some out := by
  unfold buildFragment at h
  rw [if_neg haead] at h
  split at h
  · exact absurd h (by simp)
  · rename_i encrypted henc
    obtain ⟨iv, ct, plain, rfl, hiv, hct, hopens, hstrip⟩ := encrypt_opens hideal henc
    rw [if_neg haead] at hopens
    simp only at h
    split at h
    · exact absurd h (by simp)
    · rename_i out hout
      obtain ⟨key, hkey, hcalc⟩ := Option.bind_eq_some_iff.mp hout
      obtain ⟨out', hout', hle⟩ := hmac key _
      obtain rfl := Option.some.inj (hcalc.symm.trans hout')
      have htake : (out.take a.outputLength).length = a.outputLength :=
        List.length_take_of_le hle
      have hlen : skfHeaderSize + (iv ++ ct).length + a.outputLength
          = skfHeaderSize + (iv ++ ct ++ out.take a.outputLength).length := by
        have hsum : (iv ++ ct ++ out.take a.outputLength).length
            = (iv ++ ct).length + (out.take a.outputLength).length := List.length_append
        rw [hsum, htake, Nat.add_assoc]
      rw [skfFront_eq hlen] at hcalc h
      refine ⟨iv, ct, out.take a.outputLength, plain, key, out, ?_, hiv, hct, htake, hopens, hstrip,
        hkey, rfl, hcalc⟩
      rw [← Option.some.inj h, List.append_assoc]

/-- a fragment: its front, and what is sealed behind it -/
theorem buildFragment_some (hideal : c.Ideal) (hmac : a.Ideal)
    (h : buildFragment c a conf draws encKey authKey work np no total chunk = some f) :
    ∃ iv ct icv plain, f = skfFront work np no total (iv ++ ct ++ icv).length ++ (iv ++ ct ++ icv)
      ∧ iv.length = c.ivLength
      ∧ ct.length = sealedLen c conf draws.uint32 chunk.length + c.icvLength
      ∧ icv.length = (if 0 < c.icvLength then 0 else a.outputLength)
      ∧ (if 0 < c.icvLength
          then c.decryptAead ct encKey iv (skfFront work np no total (iv ++ ct ++ icv).length)
          else c.decrypt ct encKey iv) = some plain
      ∧ stripPadding plain = some chunk
      ∧ (¬ 0 < c.icvLength → ∃ key out, authKey = some key ∧ icv = out.take a.outputLength
          ∧ a.calculate key (skfFront work np no total (iv ++ ct ++ icv).length ++ (iv ++ ct))
            = some out) := by
  by_cases haead : 0 < c.icvLength
  · obtain ⟨iv, ct, plain, hf, hiv, hct, hopens, hstrip⟩ := buildFragment_aead hideal haead h
    refine ⟨iv, ct, [], plain, ?_, hiv, hct, ?_, ?_, hstrip, fun hno => absurd haead hno⟩
    · rw [List.append_nil]
      exact hf
    · rw [if_pos haead]
      rfl
    · rw [if_pos haead, List.append_nil]
      exact hopens
  · obtain ⟨iv, ct, icv, plain, key, out, hf, hiv, hct, hicv, hopens, hstrip, hkey, hout, hcalc⟩ :=
      buildFragment_mac hideal hmac haead h
    refine ⟨iv, ct, icv, plain, hf, hiv, hct, ?_, ?_, hstrip, fun _ => ⟨key, out, hkey, hout, hcalc⟩⟩
    · rw [if_neg haead]
      exact hicv
    · rw [if_neg haead]
      exact hopens

/-- the size of a fragment -/
def fragmentLen (c : Cipher) (a : Authenticator) (conf : PadConf) (draw n : Nat) : Nat :=
  headerSize + skfHeaderSize + c.ivLength + sealedLen c conf draw n + icvLength c.toEncryptor a

theorem buildFragment_length (hideal : c.Ideal) (hmac : a.Ideal) (hwork : headerSize ≤ work.length)
    (h : buildFragment c a conf draws encKey authKey work np no total chunk = some f) :
    f.length = fragmentLen c a conf draws.uint32 chunk.length := by
  obtain ⟨iv, ct, icv, plain, rfl, hiv, hct, hicv, -⟩ := buildFragment_some hideal hmac h
  rw [List.length_append, skfFront_length hwork, List.length_append, List.length_append, hiv, hct,
    hicv]
  unfold fragmentLen icvLength
  split <;> omega

end

/-! ## all fragments -/

theorem mapM_some {α β : Type} {f : α → Option β} (xs : List α) : ∀ {ys : List β},
    xs.mapM f = some ys → ys.length = xs.length
      ∧ (∀ y ∈ ys, ∃ x ∈ xs, f x = some y) ∧ ∀ x ∈ xs, ∃ y ∈ ys, f x = some y := by
  induction xs with
  | nil =>
    intro ys h
    rw [List.mapM_nil] at h
    obtain rfl := Option.some.inj h
    exact ⟨rfl, fun y hy => absurd hy List.not_mem_nil, fun x hx => absurd hx List.not_mem_nil⟩
  | cons x xs ih =>
    intro ys h
    simp only [List.mapM_cons, bind, Option.bind_eq_some_iff, pure, Option.some.injEq] at h
    obtain ⟨z, hz, zs, hzs, rfl⟩ := h
    obtain ⟨hlen, hfrom, hto⟩ := ih hzs
    refine ⟨congrArg Nat.succ hlen, ?_, ?_⟩
    · intro y hy
      rcases List.mem_cons.mp hy with rfl | hy
      · exact ⟨x, List.mem_cons_self, hz⟩
      · obtain ⟨x', hx', hfx'⟩ := hfrom y hy
        exact ⟨x', List.mem_cons_of_mem _ hx', hfx'⟩
    · intro x' hx'
      rcases List.mem_cons.mp hx' with rfl | hx'
      · exact ⟨z, List.mem_cons_self, hz⟩
      · obtain ⟨y, hy, hfy⟩ := hto x' hx'
        exact ⟨y, List.mem_cons_of_mem _ hy, hfy⟩

theorem totalFrags_bounds {n m : Nat} (hn : 0 < n) (hm : 0 < m) :
    1 ≤ totalFrags n m ∧ (totalFrags n m - 1) * m < n ∧ n ≤ totalFrags n m * m := by
  have hle := Nat.div_mul_le_self (n + m - 1) m
  have hlt := Nat.lt_div_mul_add hm (a := n + m - 1)
  have hpos : 1 ≤ totalFrags n m := Nat.div_pos (by omega) hm
  have hsub : (totalFrags n m - 1) * m + m = totalFrags n m * m := by
    obtain ⟨k, hk⟩ : ∃ k, totalFrags n m = k + 1 := ⟨totalFrags n m - 1, by omega⟩
    rw [hk, Nat.add_sub_cancel, Nat.succ_mul]
  unfold totalFrags at *
  exact ⟨hpos, by omega, by omega⟩

section
variable {sa : SendSa} {draws : Nat → Draws} {socket : Bool} {packet : Bytes} {frags : List Bytes}
  {c : Cipher} {a : Authenticator} {plan : FragPlan}

/-- what a message that is sent in fragments has passed -/
theorem fragSend_some (hc : sa.cipher = some c) (ha : sa.authenticator = some a)
    (hplan : fragPlan sa.toSa packet = some plan)
    (h : fragSend sa draws socket packet = some frags) :
    ∃ encKey, sa.sendEncKey = some encKey
      ∧ fragOverhead c a < fragThreshold sa.remoteEp.family
      ∧ 0 < plan.inner.length
      ∧ totalFrags plan.inner.length (chunkMax sa.remoteEp.family c a) ≤ maxFrags
      ∧ buildFragments sa c a draws encKey plan (chunkMax sa.remoteEp.family c a)
          (totalFrags plan.inner.length (chunkMax sa.remoteEp.family c a)) = some frags := by
  unfold fragSend at h
  rw [hc, ha, hplan] at h
  cases hkey : sa.sendEncKey with
  | none =>
    rw [hkey] at h
    exact absurd h (by simp)
  | some encKey =>
    rw [hkey] at h
    simp only at h
    split at h
    · exact absurd h (by simp)
    · split at h
      · exact absurd h (by simp)
      · split at h
        · exact absurd h (by simp)
        · split at h
          · exact absurd h (by simp)
          · exact ⟨encKey, rfl, by omega, by omega, by omega, h⟩

/-- a message that decrypts has its header, and keeps it -/
theorem decrypt_lengths {sa : Sa} {plain : Bytes} (h : decrypt sa packet = some plain) :
    headerSize ≤ packet.length ∧ headerSize ≤ plain.length := by
  unfold decrypt at h
  split at h
  · rename_i e a key off he ha hkey hoff
    split at h
    · exact absurd h (by simp)
    · split at h
      · exact absurd h (by simp)
      · split at h
        · exact absurd h (by simp)
        · have hge := findEncrypted_ge hoff
          have hh : headerSize = 28 := rfl
          have hdata := payloadDataLength_pos (p := packet.drop off) (by omega)
          rw [List.length_drop] at hdata
          have hput : 28 ≤ (put (packet.take (off + 4)) (off + 2) (enc16 4)).length := by
            unfold put
            rw [List.length_append, List.length_append, List.length_take, List.length_take]
            omega
          refine ⟨by omega, ?_⟩
          rw [← Option.some.inj h]
          unfold putLength
          rw [put_length]
          · rw [List.length_append]
            omega
          · rw [List.length_append, enc32_length]
            omega
  · exact absurd h (by simp)

theorem fragPlan_work {sa : Sa} (h : fragPlan sa packet = some plan) :
    ∃ off off', findEncrypted packet = some off ∧ decryptLocal sa packet = some plan.work
      ∧ findEncrypted plan.work = some off' ∧ plan.np = byteAt packet off
      ∧ plan.inner = plan.work.drop (off' + 4) := by
  unfold fragPlan at h
  split at h
  · rename_i off work hoff hwork
    obtain ⟨off', hoff', rfl⟩ := Option.map_eq_some_iff.mp h
    exact ⟨off, off', hoff, hwork, hoff', rfl, rfl⟩
  · exact absurd h (by simp)

/-- the work copy has the header of the message, but for its length -/
theorem fragPlan_header {sa : Sa} (h : fragPlan sa packet = some plan) :
    headerSize ≤ packet.length ∧ headerSize ≤ plan.work.length
      ∧ ∀ i, i < 24 → byteAt plan.work i = byteAt packet i := by
  obtain ⟨off, off', -, hwork, -⟩ := fragPlan_work h
  obtain ⟨hpacket, hlen⟩ := decrypt_lengths hwork
  exact ⟨hpacket, hlen, fun i hi => decrypt_byteAt hwork hi⟩

/-- of a message that `ikev2_packet_construct` has built, the plan has the payloads that were
pushed -/
theorem fragPlan_constructed {draw : Draws} {exchType flags : UInt8} {mid : Nat} {ps : List Pushed}
    (hideal : c.Ideal) (hmac : a.Ideal) (hc : sa.cipher = some c) (ha : sa.authenticator = some a)
    (h : packetConstruct sa draw exchType flags mid ps = some packet)
    (hfits : encryptedPayloadLen c a sa.padConf draw.uint32 (chainOctets ps).length ≤ 65535) :
    ∃ work, fragPlan sa.toSa packet = some ⟨work, firstType ps, chainOctets ps⟩ := by
  -- the SA with its directions exchanged is the peer's
  have hpeer : PeerOf sa.toSa { sa.toSa with isInitiator := !sa.isInitiator } :=
    ⟨rfl, rfl, rfl, rfl, rfl, rfl, rfl⟩
  have hplain := decrypt_constructed hideal hmac hc ha hpeer h hfits
  obtain ⟨key, authKey, iv, ct, icv, plain, rfl, -⟩ := packetConstruct_sealed hideal hmac hc ha h
  have hoff : findEncrypted ((sa.header exchType flags mid).octets payloadEncrypted
      (headerSize + payloadHeaderSize + (chainOctets ps).length)
        ++ (payloadOctetsOf (firstType ps) [] ++ chainOctets ps)) = some headerSize := by
    unfold findEncrypted
    rw [HeaderFields.nextPayload_octets, encryptedOffset, if_neg (by decide), if_pos rfl]
  have hinner : ((sa.header exchType flags mid).octets payloadEncrypted
      (headerSize + payloadHeaderSize + (chainOctets ps).length)
        ++ (payloadOctetsOf (firstType ps) [] ++ chainOctets ps)).drop (headerSize + 4)
      = chainOctets ps := by
    rw [← List.append_assoc]
    apply List.drop_left'
    rw [List.length_append, HeaderFields.octets_length]
    rfl
  have hnp : byteAt (sealedPacket (sa.header exchType flags mid) (firstType ps) (iv ++ ct ++ icv))
      headerSize = firstType ps :=
    HeaderFields.byteAt_octets (sa.header exchType flags mid) payloadEncrypted
      (headerSize + payloadHeaderSize + (iv ++ ct ++ icv).length) 12
      (payloadOctetsOf (firstType ps) (iv ++ ct ++ icv))
  unfold fragPlan decryptLocal
  rw [findEncrypted_sealed, hplain]
  simp only [hoff, Option.map_some, hinner, hnp]
  exact ⟨_, rfl⟩

theorem chunkOf_length {inner : Bytes} {m no : Nat} (hinner : 0 < inner.length) (hm : 0 < m)
    (hone : 1 ≤ no) (hno : no ≤ totalFrags inner.length m) :
    (chunkOf inner m (totalFrags inner.length m) no).length
      = if no < totalFrags inner.length m then m else inner.length - (no - 1) * m := by
  obtain ⟨hpos, hlast, hall⟩ := totalFrags_bounds hinner hm
  have hmono : (no - 1) * m ≤ (totalFrags inner.length m - 1) * m :=
    Nat.mul_le_mul_right m (by omega)
  unfold chunkOf
  split
  · rename_i hlt
    have hfull : (no - 1) * m + m ≤ (totalFrags inner.length m - 1) * m := by
      rw [← Nat.succ_mul]
      exact Nat.mul_le_mul_right m (by omega)
    exact slice_length _ _ _ (by omega)
  · exact slice_length _ _ _ (by omega)

/-- the fragments, by number -/
theorem buildFragments_some {encKey : Bytes} {m total : Nat}
    (h : buildFragments sa c a draws encKey plan m total = some frags) :
    frags.length = total
      ∧ (∀ f ∈ frags, ∃ no, 1 ≤ no ∧ no ≤ total
        ∧ buildFragment c a sa.padConf (draws no) encKey sa.sendAuthKey plan.work
          (if no = 1 then plan.np else 0) no total (chunkOf plan.inner m total no) = some f)
      ∧ ∀ no, 1 ≤ no → no ≤ total → ∃ f ∈ frags,
        buildFragment c a sa.padConf (draws no) encKey sa.sendAuthKey plan.work
          (if no = 1 then plan.np else 0) no total (chunkOf plan.inner m total no) = some f := by
  obtain ⟨hlen, hfrom, hto⟩ := mapM_some _ h
  refine ⟨hlen.trans List.length_range', ?_, ?_⟩
  · intro f hf
    obtain ⟨no, hno, hbuild⟩ := hfrom f hf
    have hrange := List.mem_range'_1.mp hno
    exact ⟨no, hrange.1, by omega, hbuild⟩
  · intro no hpos hle
    exact hto no (List.mem_range'_1.mpr ⟨hpos, by omega⟩)

/-! ## the size of a datagram -/

theorem ipUdpHeaders_ge (family : Family) : 28 ≤ ipUdpHeaders family := by
  cases family <;> decide

/-- Every datagram stays within the threshold exactly when one fragment carries the whole message
and that fragment, with its padding, the marker and the IP and UDP headers, fits. -/
theorem datagrams_fit_iff {natt : Bool} (hideal : c.Ideal) (hmac : a.Ideal)
    (hc : sa.cipher = some c) (ha : sa.authenticator = some a)
    (hplan : fragPlan sa.toSa packet = some plan)
    (h : fragSend sa draws socket packet = some frags) :
    (∀ d ∈ fragDatagrams natt frags,
        d.length + ipUdpHeaders sa.remoteEp.family ≤ fragThreshold sa.remoteEp.family)
      ↔ fragmentLen c a sa.padConf (draws 1).uint32 plan.inner.length + (if natt then 4 else 0)
          + ipUdpHeaders sa.remoteEp.family ≤ fragThreshold sa.remoteEp.family := by
  obtain ⟨encKey, hkey, hover, hinner, hmax, hbuild⟩ := fragSend_some hc ha hplan h
  obtain ⟨-, hwork, -⟩ := fragPlan_header hplan
  have hm : 0 < chunkMax sa.remoteEp.family c a := by
    unfold chunkMax
    omega
  obtain ⟨hpos, hlast, hall⟩ := totalFrags_bounds hinner hm
  obtain ⟨-, hfrom, hto⟩ := buildFragments_some hbuild
  have hheaders := ipUdpHeaders_ge sa.remoteEp.family
  have hlen : ∀ n, (if natt then [0, 0, 0, 0] ++ n else n : Bytes).length
      = n.length + if natt then 4 else 0 := by
    intro n
    cases natt <;> rfl
  have hover' : fragOverhead c a + chunkMax sa.remoteEp.family c a
      = fragThreshold sa.remoteEp.family := by
    unfold chunkMax
    omega
  -- what a fragment with `n` octets of payloads takes at least
  have hleast : ∀ draw n, fragOverhead c a + n ≤ fragmentLen c a sa.padConf draw n + 15 := by
    intro draw n
    unfold fragOverhead fragmentLen sealedLen
    omega
  constructor
  · intro hfit
    obtain ⟨f, hf, hfirst⟩ := hto 1 (Nat.le_refl 1) hpos
    have hsize := hfit _ (List.mem_map_of_mem hf)
    rw [hlen, buildFragment_length hideal hmac hwork hfirst,
      chunkOf_length hinner hm (Nat.le_refl 1) hpos] at hsize
    by_cases hmore : 1 < totalFrags plan.inner.length (chunkMax sa.remoteEp.family c a)
    · -- a full chunk is too large
      rw [if_pos hmore] at hsize
      have hfull := hleast (draws 1).uint32 (chunkMax sa.remoteEp.family c a)
      omega
    · rw [if_neg hmore, Nat.sub_self, Nat.zero_mul, Nat.sub_zero] at hsize
      exact hsize
  · intro hfit d hd
    have hshort := hleast (draws 1).uint32 plan.inner.length
    have hone : totalFrags plan.inner.length (chunkMax sa.remoteEp.family c a) = 1 := by
      by_contra hne
      have hmul : 1 * chunkMax sa.remoteEp.family c a
          ≤ (totalFrags plan.inner.length (chunkMax sa.remoteEp.family c a) - 1)
            * chunkMax sa.remoteEp.family c a := Nat.mul_le_mul_right _ (by omega)
      omega
    obtain ⟨f, hf, rfl⟩ := List.mem_map.mp hd
    obtain ⟨no, hno, hle, hbuilt⟩ := hfrom f hf
    obtain rfl : no = 1 := by omega
    rw [hlen, buildFragment_length hideal hmac hwork hbuilt, chunkOf_length hinner hm hno hle, hone,
      if_neg (Nat.lt_irrefl 1), Nat.sub_self, Nat.zero_mul, Nat.sub_zero]
    exact hfit

end

theorem payloadCert_type : payloadCert ≠ noNextPayload := by decide

/-- a cipher with blocks of 16 octets, in the shape of AES-CBC -/
def blockCipher : Cipher where
  ivLength := 16
  icvLength := 0
  decrypt := fun data _ _ => some data
  decryptAead := fun _ _ _ _ => none
  blockLength := 16
  blockLength_pos := by decide
  blockLength_le := by decide
  encrypt := fun data _ _ => some data
  encryptAead := fun _ _ _ _ => none

theorem blockCipher_ideal : blockCipher.Ideal where
  length := by
    rintro data key iv ct - - ⟨⟩
    rfl
  opens := by
    rintro data key iv ct - - ⟨⟩
    rfl
  aead_length := by
    rintro data key iv aad ct - ⟨⟩
  aead_opens := by
    rintro data key iv aad ct - ⟨⟩

/-- a MAC of 12 octets -/
def shortMac : Authenticator := ⟨12, fun _ _ => some (List.replicate 12 0)⟩

theorem shortMac_ideal : shortMac.Ideal := fun key data => ⟨List.replicate 12 0, rfl, Nat.le_refl _⟩

/-- an SA with `random_padlen` -/
def paddedSend : SendSa where
  toSa := { tagSa true with
    encryptor := some blockCipher.toEncryptor, authenticator := some shortMac, skAI := some [3]
    skAR := some [4] }
  cipher := some blockCipher
  padConf := ⟨false, true, 0⟩
  same_cipher := rfl
  spiI_length := rfl
  spiR_length := rfl

/-- the padding of 255 octets -/
def longPad : Draws := { zeroDraws with uint32 := 15 }

/-- a certificate of 396 octets -/
def shortCertPushed : List Pushed := [⟨payloadCert, List.replicate 396 0, payloadCert_type⟩]

/-- a message that its padding makes too long for one datagram; its fragment has less, and fits -/
theorem datagrams_fit_padded :
    ∃ pkt frags, packetConstruct paddedSend longPad exchIkeAuth flagInitiator 1 shortCertPushed
        = some pkt
      ∧ 576 ≤ pkt.length
      ∧ fragSend paddedSend (fun _ => zeroDraws) true pkt = some frags
      ∧ ∀ d ∈ fragDatagrams true frags,
        d.length + ipUdpHeaders paddedSend.remoteEp.family
          ≤ fragThreshold paddedSend.remoteEp.family := by
  have hrun : ((packetConstruct paddedSend longPad exchIkeAuth flagInitiator 1
      shortCertPushed).bind fun pkt => (fragPlan paddedSend.toSa pkt).bind fun plan =>
        (fragSend paddedSend (fun _ => zeroDraws) true pkt).map fun _ =>
          (pkt.length, plan.inner.length)) = some (716, 400) := by decide +kernel
  obtain ⟨pkt, hpkt, hrun⟩ := Option.bind_eq_some_iff.mp hrun
  obtain ⟨plan, hplan, hrun⟩ := Option.bind_eq_some_iff.mp hrun
  obtain ⟨frags, hsend, hlens⟩ := Option.map_eq_some_iff.mp hrun
  obtain ⟨hlong, hinner⟩ := Prod.mk.inj hlens
  refine ⟨pkt, frags, hpkt, ?_, hsend,
    (datagrams_fit_iff blockCipher_ideal shortMac_ideal rfl rfl hplan hsend).mpr ?_⟩
  · rw [hlong]
    decide
  · rw [hinner]
    decide

/-- a certificate of 600 octets -/
def certPushed : List Pushed := [⟨payloadCert, List.replicate 600 0, payloadCert_type⟩]

/-- two fragments, and the first is too large for its datagram -/
theorem datagram_too_large :
    ∃ pkt frags, packetConstruct tagSend zeroDraws exchIkeAuth flagInitiator 1 certPushed = some pkt
      ∧ fragSend tagSend (fun _ => zeroDraws) true pkt = some frags
      ∧ ¬ ∀ d ∈ fragDatagrams false frags,
        d.length + ipUdpHeaders tagSend.remoteEp.family ≤ fragThreshold tagSend.remoteEp.family := by
  have hrun : ((packetConstruct tagSend zeroDraws exchIkeAuth flagInitiator 1 certPushed).bind
      fun pkt => fragSend tagSend (fun _ => zeroDraws) true pkt).any (fun frags =>
        (fragDatagrams false frags).any fun d => decide (fragThreshold tagSend.remoteEp.family
          < d.length + ipUdpHeaders tagSend.remoteEp.family)) = true := by decide +kernel
  obtain ⟨frags, hfrags, hlarge⟩ := (Option.any_eq_true _ _).mp hrun
  obtain ⟨pkt, hpkt, hsend⟩ := Option.bind_eq_some_iff.mp hfrags
  obtain ⟨d, hd, hsize⟩ := List.any_eq_true.mp hlarge
  refine ⟨pkt, frags, hpkt, hsend, fun hfit => ?_⟩
  have hle := hfit d hd
  have hlt := of_decide_eq_true hsize
  omega

end Ikev2
