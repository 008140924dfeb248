import Racoon2.Iked.FragKinds
import Racoon2.Lib.Collect

/-!
# From the sender's fragments to the receiver's packet

The fragments of `ikev2_frag_send` arrive at the peer's `ikev2_frag_recv` in any order, any number of
times and between other fragments.  What the peer should do with them is the collector: it notes the
numbers since the last complete set, and answers when the set is complete.

* `fragment_accepted`      a fragment as the receiver sees it;
* `chunks_join`            the chunks are the inner payloads;
* `Holding`                the queue holds what the collector has noted;
* `fragments_round_trip`   every run of arrivals.
-/

set_option linter.unusedVariables false

namespace Ikev2
open Bytes

/-! ## reading a fragment -/

section
variable {work rest : Bytes} {np : UInt8} {no total n : Nat}

/-- the header of a fragment is that of the message, but for the first payload and the length -/
theorem skfFront_byteAt (hwork : headerSize ≤ work.length) (np : UInt8) (no total n : Nat)
    (rest : Bytes) {i : Nat} (hi : i < 24) (hnot : i ≠ 16) :
    byteAt (skfFront work np no total n ++ rest) i = byteAt work i := by
  have h28 : headerSize = 28 := rfl
  have htake : (work.take headerSize).length = 28 := List.length_take_of_le hwork
  have hput : (put (work.take headerSize) 16 [payloadSkf]).length = 28 := by
    rw [put_length, htake]
    rw [htake]
    exact Nat.le_of_ble_eq_true rfl
  rw [byteAt_append_left _ _ _ (by rw [skfFront_length hwork]; omega)]
  unfold skfFront
  rw [byteAt_append_left _ _ _ (by rw [fragHeader_length hwork]; omega)]
  unfold fragHeader
  rw [byteAt_put_left _ _ _ _ hi (by rw [hput]; omega)]
  by_cases hlt : i < 16
  · rw [byteAt_put_left _ _ _ _ hlt (by rw [htake]; omega), byteAt_take _ _ _ (by omega)]
  · rw [byteAt_put_right _ _ _ _ (show 16 + 1 ≤ i by omega) (by rw [htake]; omega),
      byteAt_take _ _ _ (by omega)]

/-- the fields of the SKF header -/
theorem skfFront_fields (hwork : headerSize ≤ work.length) (np : UInt8) (rest : Bytes)
    (hn : skfHeaderSize + n < 65536) (hno : no < 65536) (htotal : total < 65536) :
    byteAt (skfFront work np no total n ++ rest) 28 = np
      ∧ be16 (skfFront work np no total n ++ rest) 30 = skfHeaderSize + n
      ∧ skfNumber (skfFront work np no total n ++ rest) = no
      ∧ skfTotal (skfFront work np no total n ++ rest) = total := by
  have hlen := fragHeader_length hwork (headerSize + (skfHeaderSize + n))
  have hsplit : skfFront work np no total n ++ rest
      = fragHeader work (headerSize + (skfHeaderSize + n))
        ++ (skfHeader np (skfHeaderSize + n) no total ++ rest) := List.append_assoc _ _ _
  have hread : ∀ i, be16 (skfFront work np no total n ++ rest) (28 + i)
      = be16 (skfHeader np (skfHeaderSize + n) no total ++ rest) i := by
    intro i
    rw [hsplit]
    have happ := be16_append_right (fragHeader work (headerSize + (skfHeaderSize + n)))
      (skfHeader np (skfHeaderSize + n) no total ++ rest) i
    rw [hlen] at happ
    exact happ
  refine ⟨?_, ?_, ?_, ?_⟩
  · rw [hsplit]
    have happ := byteAt_append_right (fragHeader work (headerSize + (skfHeaderSize + n)))
      (skfHeader np (skfHeaderSize + n) no total ++ rest) 0
    rw [hlen] at happ
    exact happ
  · exact (hread 2).trans (octets_value hn)
  · exact (hread 4).trans (octets_value hno)
  · exact (hread 6).trans (octets_value htotal)

end

section
variable {c : Cipher} {a : Authenticator} {conf : PadConf} {draws : Draws} {encKey : Bytes}
  {authKey : Option Bytes} {work chunk f : Bytes} {np : UInt8} {no total : Nat} {peer : Sa}

/-- what a fragment seals is opened again -/
theorem fragOpen_sealed {iv ct icv plain : Bytes} (hwork : headerSize ≤ work.length)
    (hfits : skfHeaderSize + (iv ++ ct ++ icv).length < 65536) (hno : no < 65536)
    (htotal : total < 65536) (hiv : iv.length = c.ivLength)
    (hicv : icv.length = if 0 < c.icvLength then 0 else a.outputLength)
    (hopens : (if 0 < c.icvLength
      then c.decryptAead ct encKey iv (skfFront work np no total (iv ++ ct ++ icv).length)
      else c.decrypt ct encKey iv) = some plain)
    (hcalc : ¬ 0 < c.icvLength → ∃ key out, authKey = some key ∧ icv = out.take a.outputLength
      ∧ a.calculate key (skfFront work np no total (iv ++ ct ++ icv).length ++ (iv ++ ct))
        = some out) :
    fragOpen c.toEncryptor a authKey encKey
        (skfFront work np no total (iv ++ ct ++ icv).length ++ (iv ++ ct ++ icv))
      = stripPadding plain := by
  obtain ⟨-, hfield, -⟩ := skfFront_fields hwork np (iv ++ ct ++ icv) hfits hno htotal
  have hfront : (skfFront work np no total (iv ++ ct ++ icv).length).length = 36 :=
    skfFront_length hwork np no total _
  have hslice : ∀ i k, slice (skfFront work np no total (iv ++ ct ++ icv).length
      ++ (iv ++ ct ++ icv)) (36 + i) k = slice (iv ++ ct ++ icv) i k := by
    intro i k
    have happ := slice_append_right (skfFront work np no total (iv ++ ct ++ icv).length)
      (iv ++ ct ++ icv) i k
    rw [hfront] at happ
    exact happ
  have hivs : slice (skfFront work np no total (iv ++ ct ++ icv).length ++ (iv ++ ct ++ icv)) 36
      c.ivLength = iv := by
    have hs := hslice 0 c.ivLength
    rw [List.append_assoc iv] at hs ⊢
    exact hs.trans (slice_zero_append _ _ _ hiv)
  have hcts : slice (skfFront work np no total (iv ++ ct ++ icv).length ++ (iv ++ ct ++ icv))
      (36 + c.ivLength) ct.length = ct := by
    have hs := slice_append_right iv (ct ++ icv) 0 ct.length
    rw [Nat.add_zero, hiv, ← List.append_assoc] at hs
    exact (hslice c.ivLength ct.length).trans (hs.trans (slice_zero_append _ _ _ rfl))
  have hlen : (iv ++ ct ++ icv).length = c.ivLength + ct.length + icv.length := by
    rw [List.length_append, List.length_append, hiv]
  have h8 : skfHeaderSize = 8 := rfl
  unfold fragOpen
  simp only [hfield, hivs]
  by_cases haead : 0 < c.icvLength
  · rw [if_pos haead] at hicv hopens ⊢
    have hn : skfHeaderSize + (iv ++ ct ++ icv).length - 8 - c.ivLength = ct.length := by omega
    rw [hn, hcts, List.take_left' hfront, hopens]
    rfl
  · rw [if_neg haead] at hicv hopens ⊢
    obtain ⟨key, out, hkey, hout, hcalc⟩ := hcalc haead
    have hbody : skfFront work np no total (iv ++ ct ++ icv).length ++ (iv ++ ct ++ icv)
        = skfFront work np no total (iv ++ ct ++ icv).length ++ (iv ++ ct) ++ icv :=
      (List.append_assoc _ _ _).symm
    have hcut : (skfFront work np no total (iv ++ ct ++ icv).length ++ (iv ++ ct)).length
        = (skfFront work np no total (iv ++ ct ++ icv).length ++ (iv ++ ct ++ icv)).length
          - a.outputLength := by
      have hl : (skfFront work np no total (iv ++ ct ++ icv).length ++ (iv ++ ct) ++ icv).length
          = (skfFront work np no total (iv ++ ct ++ icv).length ++ (iv ++ ct)).length
            + icv.length := List.length_append
      rw [hbody, hl, hicv, Nat.add_sub_cancel]
    have hn : skfHeaderSize + (iv ++ ct ++ icv).length - 8 - c.ivLength - a.outputLength
        = ct.length := by omega
    rw [← hcut, hn, hcts, hbody, List.take_left' rfl, List.drop_left' rfl, hkey, hopens]
    simp only [Option.bind_some, hcalc]
    rw [if_pos hout]
    rfl

/-- a fragment as the receiver sees it -/
structure ReadFragment (peer : Sa) (work : Bytes) (np : UInt8) (no total : Nat) (chunk f : Bytes) :
    Prop where
  accepted : fragAccepts peer f = some chunk
  number : skfNumber f = no
  ofTotal : skfTotal f = total
  firstType : byteAt f 28 = np
  header : ∀ i, i < 24 → i ≠ 16 → byteAt f i = byteAt work i

theorem fragment_accepted (hideal : c.Ideal) (hmac : a.Ideal)
    (he : peer.encryptor = some c.toEncryptor) (ha : peer.authenticator = some a)
    (hkey : peer.recvEncKey = some encKey) (hauth : peer.recvAuthKey = authKey)
    (hsup : peer.fragSupported = true) (hwork : headerSize ≤ work.length) (hpos : 1 ≤ no)
    (hno : no ≤ total) (htotal : total ≤ maxFrags)
    (hfits : fragmentLen c a conf draws.uint32 chunk.length < headerSize + 65536)
    (h : buildFragment c a conf draws encKey authKey work np no total chunk = some f) :
    ReadFragment peer work np no total chunk f := by
  have h8 : skfHeaderSize = 8 := rfl
  have h28 : headerSize = 28 := rfl
  have h64 : maxFrags = 64 := rfl
  have hsize := buildFragment_length hideal hmac hwork h
  obtain ⟨iv, ct, icv, plain, rfl, hiv, hct, hicv, hopens, hstrip, hcalc⟩ :=
    buildFragment_some hideal hmac h
  have hlen : (iv ++ ct ++ icv).length = c.ivLength + ct.length + icv.length := by
    rw [List.length_append, List.length_append, hiv]
  rw [List.length_append, skfFront_length hwork] at hsize
  have hfits' : skfHeaderSize + (iv ++ ct ++ icv).length < 65536 := by omega
  obtain ⟨hfirst, hfield, hnumber, htot⟩ := skfFront_fields hwork np (iv ++ ct ++ icv) hfits'
    (show no < 65536 by omega) (show total < 65536 by omega)
  have hlength : (skfFront work np no total (iv ++ ct ++ icv).length ++ (iv ++ ct ++ icv)).length
      = 36 + (iv ++ ct ++ icv).length := by
    rw [List.length_append, skfFront_length hwork]
    rfl
  refine ⟨?_, hnumber, htot, hfirst, fun i hi hnot => skfFront_byteAt hwork np no total _ _ hi hnot⟩
  have hkeys : peer.hasRecvKeys = true := by
    unfold Sa.hasRecvKeys Sa.isAead
    rw [he, hkey]
    by_cases haead : 0 < c.icvLength
    · simp only [decide_eq_true haead]
      rfl
    · obtain ⟨key, out, hsome, -⟩ := hcalc haead
      rw [hauth, hsome]
      simp only [Option.isSome_some, Bool.or_true, Bool.and_self]
  have hover : 8 + c.ivLength + icvLength c.toEncryptor a + 1
      ≤ skfHeaderSize + (iv ++ ct ++ icv).length := by
    unfold icvLength
    unfold sealedLen at hct
    split at hicv
    · rename_i haead
      rw [if_pos haead]
      omega
    · rename_i haead
      rw [if_neg haead]
      omega
  have hwf : fragWellFormed c.toEncryptor a
      (skfFront work np no total (iv ++ ct ++ icv).length ++ (iv ++ ct ++ icv)) = true := by
    unfold fragWellFormed
    rw [hnumber, htot, hfield, hlength]
    simp only [Bool.and_eq_true, decide_eq_true_eq]
    exact ⟨⟨⟨⟨⟨hpos, by omega⟩, hno⟩, htotal⟩, hover⟩, by omega⟩
  have hopen := fragOpen_sealed hwork hfits' (show no < 65536 by omega)
    (show total < 65536 by omega) hiv hicv hopens hcalc
  unfold fragAccepts
  rw [if_neg (by rw [hlength]; omega), he, ha, hkey]
  simp only
  rw [hkeys, hwf, hsup, hauth, hopen, hstrip]
  rfl

end

/-! ## the chunks -/

/-- the chunks are the inner payloads -/
theorem chunks_join {inner : Bytes} {m : Nat} (hinner : 0 < inner.length) (hm : 0 < m) :
    mergeParts (fun i => some (chunkOf inner m (totalFrags inner.length m) i))
      (totalFrags inner.length m) = some inner := by
  obtain ⟨hpos, hlast, hall⟩ := totalFrags_bounds hinner hm
  -- the first `k` chunks, all of them full
  have hfull : ∀ k, k < totalFrags inner.length m →
      mergeParts (fun i => some (chunkOf inner m (totalFrags inner.length m) i)) k
        = some (slice inner 0 (k * m)) := by
    intro k
    induction k with
    | zero =>
      intro _
      rw [Nat.zero_mul]
      rfl
    | succ k ih =>
      intro hk
      have hchunk : chunkOf inner m (totalFrags inner.length m) (k + 1) = slice inner (k * m) m := by
        unfold chunkOf
        rw [if_pos hk, Nat.add_sub_cancel]
      have hadd := slice_add inner 0 (k * m) m
      rw [Nat.zero_add, ← Nat.succ_mul] at hadd
      rw [mergeParts, ih (by omega), hchunk]
      exact congrArg some hadd
  obtain ⟨k, hk⟩ : ∃ k, totalFrags inner.length m = k + 1 :=
    ⟨totalFrags inner.length m - 1, by omega⟩
  rw [hk, Nat.add_sub_cancel] at hlast
  have hchunk : chunkOf inner m (totalFrags inner.length m) (k + 1)
      = slice inner (k * m) (inner.length - k * m) := by
    unfold chunkOf
    rw [if_neg (by omega), Nat.add_sub_cancel]
  have hadd := slice_add inner 0 (k * m) (inner.length - k * m)
  rw [Nat.zero_add, Nat.add_sub_cancel' (Nat.le_of_lt hlast)] at hadd
  have hmerge : mergeParts (fun i => some (chunkOf inner m (totalFrags inner.length m) i)) (k + 1)
      = some inner := by
    rw [mergeParts, hfull k (by omega), hchunk]
    show some (slice inner 0 (k * m) ++ slice inner (k * m) (inner.length - k * m)) = some inner
    rw [hadd]
    unfold slice
    rw [List.drop_zero, List.take_length]
  rw [hk] at hmerge ⊢
  exact hmerge

theorem mergeParts_length {parts : Nat → Option Bytes} (n : Nat) : ∀ {merged : Bytes},
    mergeParts parts n = some merged →
      ∑ i ∈ Finset.Icc 1 n, ((parts i).getD []).length = merged.length := by
  induction n with
  | zero =>
    intro merged h
    obtain rfl := Option.some.inj h
    rfl
  | succ n ih =>
    intro merged h
    rw [mergeParts] at h
    split at h
    · rename_i front last hfront hlast
      obtain rfl := Option.some.inj h
      rw [Finset.sum_Icc_succ_top (by omega), ih hfront, hlast, List.length_append]
      rfl
    · exact absurd h (by simp)

/-! ## the reassembled packet -/

section
variable {p q : Bytes}

theorem headerPut_length (hp : headerSize ≤ p.length) (np : UInt8) :
    (put (p.take headerSize) 16 [np]).length = 28 := by
  have htake : (p.take headerSize).length = 28 := List.length_take_of_le hp
  rw [put_length, htake]
  rw [htake]
  exact Nat.le_of_ble_eq_true rfl

theorem headerPut_byteAt (hp : headerSize ≤ p.length) (np : UInt8) {i : Nat} (hi : i < 24) :
    byteAt (put (p.take headerSize) 16 [np]) i = if i = 16 then np else byteAt p i := by
  have h28 : headerSize = 28 := rfl
  have htake : (p.take headerSize).length = 28 := List.length_take_of_le hp
  rcases Nat.lt_trichotomy i 16 with hlt | rfl | hgt
  · rw [if_neg (by omega), byteAt_put_left _ _ _ _ hlt (by rw [htake]; omega),
      byteAt_take _ _ _ (by omega)]
  · rw [if_pos rfl, byteAt_put_at _ _ _ (by rw [htake]; omega)]
  · rw [if_neg (by omega), byteAt_put_right _ _ _ _ (show 16 + 1 ≤ i from hgt)
      (by rw [htake]; omega), byteAt_take _ _ _ (by omega)]

/-- header, length, payloads -/
theorem reassembled_split (hp : headerSize ≤ p.length) (np : UInt8) (merged : Bytes) :
    reassembled p np merged = (put (p.take headerSize) 16 [np]).take 24
      ++ (enc32 (headerSize + merged.length) ++ merged) := by
  have hput := headerPut_length hp np
  unfold reassembled putLength
  rw [put, List.take_append_of_le_length (by rw [hput]; omega), List.append_assoc]
  congr 2
  exact List.drop_left' hput

theorem headerCut_length (hp : headerSize ≤ p.length) (np : UInt8) :
    ((put (p.take headerSize) 16 [np]).take 24).length = 24 := by
  rw [List.length_take, headerPut_length hp]
  rfl

/-- of the header before its length, without the first payload -/
theorem headerCut_congr (hp : headerSize ≤ p.length) (hq : headerSize ≤ q.length)
    (h : ∀ i, i < 24 → i ≠ 16 → byteAt p i = byteAt q i) (np : UInt8) :
    (put (p.take headerSize) 16 [np]).take 24 = (put (q.take headerSize) 16 [np]).take 24 := by
  apply eq_of_byteAt
  · rw [headerCut_length hp, headerCut_length hq]
  · intro i hi
    rw [headerCut_length hp] at hi
    rw [byteAt_take _ _ _ hi, byteAt_take _ _ _ hi, headerPut_byteAt hp np hi,
      headerPut_byteAt hq np hi]
    by_cases hi16 : i = 16
    · rw [if_pos hi16, if_pos hi16]
    · rw [if_neg hi16, if_neg hi16, h i hi hi16]

/-- of the last fragment only the header counts, without its first payload and its length -/
theorem reassembled_congr (hp : headerSize ≤ p.length) (hq : headerSize ≤ q.length)
    (h : ∀ i, i < 24 → i ≠ 16 → byteAt p i = byteAt q i) (np : UInt8) (merged : Bytes) :
    reassembled p np merged = reassembled q np merged := by
  rw [reassembled_split hp, reassembled_split hq, headerCut_congr hp hq h np]

/-- the message `packet` in the clear: its header fields, the type of its first inner payload, its
inner payloads -/
structure Unsealed (packet : Bytes) (np : UInt8) (inner pkt : Bytes) : Prop where
  header : ∀ i, i < 24 → i ≠ 16 → byteAt pkt i = byteAt packet i
  first : nextPayload pkt = np
  length : headerLength pkt = pkt.length
  payloads : pkt.drop headerSize = inner

theorem reassembled_unsealed (hp : headerSize ≤ p.length) (np : UInt8) {merged : Bytes}
    (hsize : merged.length ≤ maxReasm) : Unsealed p np merged (reassembled p np merged) := by
  have hcut := headerCut_length hp np
  have h28 : headerSize = 28 := rfl
  have hmax : maxReasm = 65535 := rfl
  have hbyte : ∀ i, i < 24 → byteAt (reassembled p np merged) i
      = if i = 16 then np else byteAt p i := by
    intro i hi
    rw [reassembled_split hp, byteAt_append_left _ _ _ (by rw [hcut]; exact hi),
      byteAt_take _ _ _ hi, headerPut_byteAt hp np hi]
  refine ⟨?_, ?_, ?_, reassembled_drop hp np merged⟩
  · intro i hi hnot
    rw [hbyte i hi, if_neg hnot]
  · exact (hbyte 16 (by decide)).trans (if_pos rfl)
  · have hread : ∀ i, be16 (reassembled p np merged) (24 + i)
        = be16 (enc32 (headerSize + merged.length) ++ merged) i := by
      intro i
      have happ := be16_append_right ((put (p.take headerSize) 16 [np]).take 24)
        (enc32 (headerSize + merged.length) ++ merged) i
      rw [hcut] at happ
      rw [reassembled_split hp]
      exact happ
    have hvalue := be32_enc32 (show headerSize + merged.length < 2 ^ 32 by omega) merged
    unfold be32 at hvalue
    show be16 _ (24 + 0) * 65536 + be16 _ (24 + 2) = _
    rw [hread, hread, hvalue, reassembled_split hp, List.length_append, hcut, List.length_append,
      enc32_length, h28]
    omega

end

/-! ## the sender -/

/-- `frags` are fragments of the message `packet`, with chunks of `inner` -/
structure Fragmented (peer : Sa) (packet : Bytes) (np : UInt8) (inner : Bytes) (n : Nat)
    (chunk : Nat → Bytes) (frags : List Bytes) : Prop where
  hasHeader : headerSize ≤ packet.length
  least : 1 ≤ n
  most : n ≤ maxFrags
  joins : mergeParts (fun i => some (chunk i)) n = some inner
  read : ∀ f ∈ frags, ∃ no, 1 ≤ no ∧ no ≤ n
    ∧ ReadFragment peer packet (if no = 1 then np else 0) no n (chunk no) f

section
variable {sa : SendSa} {draws : Nat → Draws} {socket : Bool} {packet : Bytes} {frags : List Bytes}
  {c : Cipher} {a : Authenticator} {plan : FragPlan} {peer : Sa}

/-- a chunk leaves room in the length fields -/
theorem fragmentLen_fits {family : Family} {n : Nat} (conf : PadConf) (draw : Nat)
    (hover : fragOverhead c a < fragThreshold family) (hn : n ≤ chunkMax family c a) :
    fragmentLen c a conf draw n < headerSize + 65536 := by
  have hpad := padLen_le c conf draw n
  have hthreshold : fragThreshold family ≤ 1280 := by
    cases family <;> decide
  unfold fragOverhead at hover
  unfold chunkMax fragOverhead at hn
  unfold fragmentLen sealedLen
  omega

theorem fragSend_fragmented (hideal : c.Ideal) (hmac : a.Ideal) (hc : sa.cipher = some c)
    (ha : sa.authenticator = some a) (hpeer : PeerOf sa.toSa peer)
    (hsup : peer.fragSupported = true) (hplan : fragPlan sa.toSa packet = some plan)
    (h : fragSend sa draws socket packet = some frags) :
    ∃ chunk, Fragmented peer packet plan.np plan.inner frags.length chunk frags := by
  obtain ⟨encKey, hkey, hover, hinner, hmax, hbuild⟩ := fragSend_some hc ha hplan h
  obtain ⟨hpacket, hwork, hheader⟩ := fragPlan_header hplan
  have hm : 0 < chunkMax sa.remoteEp.family c a := by
    unfold chunkMax
    omega
  obtain ⟨hpos, hlast, hall⟩ := totalFrags_bounds hinner hm
  obtain ⟨hlen, hfrom, -⟩ := buildFragments_some hbuild
  have he : peer.encryptor = some c.toEncryptor := by
    rw [hpeer.encryptor, sa.same_cipher, hc]
    rfl
  rw [hlen]
  refine ⟨chunkOf plan.inner (chunkMax sa.remoteEp.family c a)
    (totalFrags plan.inner.length (chunkMax sa.remoteEp.family c a)), hpacket, hpos, hmax,
    chunks_join hinner hm, ?_⟩
  intro f hf
  obtain ⟨no, hno, hle, hbuilt⟩ := hfrom f hf
  have hchunk : (chunkOf plan.inner (chunkMax sa.remoteEp.family c a)
      (totalFrags plan.inner.length (chunkMax sa.remoteEp.family c a)) no).length
        ≤ chunkMax sa.remoteEp.family c a := by
    rw [chunkOf_length hinner hm hno hle]
    split
    · exact Nat.le_refl _
    · have heq : no = totalFrags plan.inner.length (chunkMax sa.remoteEp.family c a) := by omega
      have hsplit := Nat.succ_mul (no - 1) (chunkMax sa.remoteEp.family c a)
      rw [show (no - 1).succ = no by omega, heq] at hsplit
      rw [heq]
      omega
  have hread := fragment_accepted hideal hmac he (hpeer.authenticator.trans ha)
    (hpeer.recvEncKey.trans hkey) hpeer.recvAuthKey hsup hwork hno hle hmax
    (fragmentLen_fits _ _ hover hchunk) hbuilt
  refine ⟨no, hno, hle, hread.accepted, hread.number, hread.ofTotal, hread.firstType, ?_⟩
  intro i hi hnot
  rw [hread.header i hi hnot, hheader i hi]

end

/-! ## the receiver -/

/-- a datagram with an SKF payload -/
structure Arrival where
  now : Nat
  packet : Bytes

/-- what `ikev2_frag_recv` returns, arrival by arrival -/
def receiveAll (peer : Sa) : List FragItem → List Arrival → List (Option Bytes)
  | _, [] => []
  | chain, d :: ds =>
    (fragRecv d.now { peer with fragChain := chain } d.packet).2
      :: receiveAll peer (fragRecv d.now { peer with fragChain := chain } d.packet).1 ds

/-- a returned packet with message id `m` -/
def ofMessage (m : Nat) (r : Option Bytes) : Option Bytes := r.filter fun p => messageId p == m

/-- the number of an arrival among the fragments of the message -/
def numberIn (frags : List Bytes) (d : Arrival) : Option Nat :=
  if d.packet ∈ frags then some (skfNumber d.packet) else none

/-- a fragment of the message, one of another message, or one that is not accepted; all within the
timeout -/
structure Arrives (peer : Sa) (frags : List Bytes) (others : List Nat) (start : Nat) (d : Arrival) :
    Prop where
  after : start ≤ d.now
  before : d.now ≤ start + fragTimeout
  known : d.packet ∈ frags ∨ messageId d.packet ∈ others ∨ fragAccepts peer d.packet = none

/-- the assembly holds the chunks with the numbers `seen` -/
structure Assembled (n : Nat) (np : UInt8) (chunk : Nat → Bytes) (start : Nat) (seen : Finset Nat)
    (item : FragItem) : Prop where
  total : item.totalFragments = n
  alive : start + fragTimeout ≤ item.timeout
  parts : ∀ i, item.parts i = if i ∈ seen then some (chunk i) else none
  first : 1 ∈ seen → item.nextPayload = np

/-- the queue holds what the collector has noted of message `m`, and else only the `others` -/
structure Holding (m n : Nat) (np : UInt8) (chunk : Nat → Bytes) (others : List Nat) (start : Nat)
    (chain : List FragItem) (seen : Finset Nat) : Prop where
  consistent : ChainInv chain
  ids : ∀ item ∈ chain, item.msgid = m ∨ item.msgid ∈ others
  within : seen ⊆ Finset.Icc 1 n
  missing : seen ≠ Finset.Icc 1 n
  absent : findAssembly chain m = none → seen = ∅
  present : ∀ item, findAssembly chain m = some item → Assembled n np chunk start seen item

section
variable {m n : Nat} {np : UInt8} {chunk : Nat → Bytes} {others : List Nat} {start now : Nat}
  {chain : List FragItem} {seen : Finset Nat} {item : FragItem}

theorem Holding.expire (h : Holding m n np chunk others start chain seen)
    (hnow : now ≤ start + fragTimeout) :
    Holding m n np chunk others start (fragExpire now chain) seen := by
  have hfind : findAssembly (fragExpire now chain) m = findAssembly chain m := by
    show Keyed.find FragItem.msgid (fragExpire now chain) m = Keyed.find FragItem.msgid chain m
    unfold fragExpire
    rw [Keyed.find_filter h.consistent.distinct]
    cases hitem : Keyed.find FragItem.msgid chain m with
    | none => rfl
    | some item =>
      have halive := (h.present item hitem).alive
      rw [Option.filter_some, if_pos]
      simp only [Bool.not_eq_true', Bool.and_eq_false_iff, decide_eq_false_iff_not]
      exact .inr (by omega)
  refine ⟨h.consistent.expire now, ?_, h.within, h.missing, ?_, ?_⟩
  · exact fun item hmem => h.ids item (List.mem_filter.mp hmem).1
  · rw [hfind]
    exact h.absent
  · rw [hfind]
    exact h.present

theorem Assembled.stored (h : Assembled n np chunk start seen item) (hacc : item.Accounted) :
    item.stored = seen := by
  ext i
  rw [hacc.mem_stored, h.parts i]
  by_cases hi : i ∈ seen
  · rw [if_pos hi]
    exact ⟨fun _ => hi, fun _ => rfl⟩
  · rw [if_neg hi]
    exact ⟨fun hsome => absurd hsome Bool.false_ne_true, fun hin => absurd hin hi⟩

/-- a context with another chunk -/
theorem Assembled.insert (h : Assembled n np chunk start seen item) (no : Nat) (np' : UInt8)
    (hnp : no = 1 → np' = np) :
    Assembled n np chunk start (Insert.insert no seen) (item.insert no np' (chunk no)) where
  total := h.total
  alive := h.alive
  parts := by
    intro i
    show (if i = no then some (chunk no) else item.parts i) = _
    by_cases hi : i = no
    · rw [if_pos hi, if_pos (Finset.mem_insert.mpr (.inl hi)), hi]
    · rw [if_neg hi, h.parts i]
      have hiff : i ∈ Insert.insert no seen ↔ i ∈ seen := by
        rw [Finset.mem_insert]
        exact ⟨fun hin => hin.resolve_left hi, .inr⟩
      rw [if_congr hiff rfl rfl]
  first := by
    intro hone
    show (if no = 1 then np' else item.nextPayload) = np
    by_cases hno : no = 1
    · rw [if_pos hno, hnp hno]
    · rw [if_neg hno]
      apply h.first
      exact (Finset.mem_insert.mp hone).resolve_left fun heq => hno heq.symm

/-- the octets of some chunks and another one -/
theorem chunks_fit {inner : Bytes} {no : Nat}
    (hjoin : mergeParts (fun i => some (chunk i)) n = some inner) (hwithin : seen ⊆ Finset.Icc 1 n)
    (hpos : 1 ≤ no) (hle : no ≤ n) (hnew : no ∉ seen) :
    ∑ i ∈ seen, (chunk i).length + (chunk no).length ≤ inner.length := by
  have hsum := mergeParts_length n hjoin
  have hsub : Insert.insert no seen ⊆ Finset.Icc 1 n :=
    Finset.insert_subset (Finset.mem_Icc.mpr ⟨hpos, hle⟩) hwithin
  calc ∑ i ∈ seen, (chunk i).length + (chunk no).length
      = ∑ i ∈ Insert.insert no seen, (chunk i).length := by
        rw [Finset.sum_insert hnew, Nat.add_comm]
    _ ≤ ∑ i ∈ Finset.Icc 1 n, (chunk i).length := Finset.sum_le_sum_of_subset hsub
    _ = inner.length := hsum

/-! ## one arrival -/

/-- the context of a fragment of the message -/
theorem Holding.context (h : Holding m n np chunk others start chain seen) (hafter : start ≤ now) :
    Assembled n np chunk start seen (fragContext now chain m n).2
      ∧ (fragContext now chain m n).2.msgid = m
      ∧ (∀ i ∈ (fragContext now chain m n).1, i.msgid = m ∨ i.msgid ∈ others)
      ∧ ∀ x : FragItem, x.msgid = m →
        findAssembly (replaceAssembly (fragContext now chain m n).1 x) m = some x := by
  cases hfind : findAssembly chain m with
  | none =>
    have hempty := h.absent hfind
    rw [fragContext_none hfind]
    refine ⟨⟨rfl, Nat.add_le_add_right hafter _, ?_, ?_⟩, rfl, ?_, ?_⟩
    · intro i
      rw [hempty, if_neg (Finset.notMem_empty i)]
      rfl
    · intro hone
      rw [hempty] at hone
      exact absurd hone (Finset.notMem_empty 1)
    · intro i hi
      rcases List.mem_append.mp hi with hi | hi
      · exact h.ids i ((fragEvict_sublist chain).subset hi)
      · rw [List.mem_singleton.mp hi]
        exact .inl rfl
    · intro x hx
      have hgone : Keyed.find FragItem.msgid (fragEvict chain) m = none := by
        rw [Keyed.find_eq_none]
        intro i hi
        exact Keyed.find_eq_none.mp hfind i ((fragEvict_sublist chain).subset hi)
      show Keyed.find FragItem.msgid (Keyed.replace FragItem.msgid _ x) m = some x
      rw [Keyed.replace_append hgone hx rfl, Keyed.find_append, hgone]
      exact if_pos hx
  | some item =>
    have hhas := h.present item hfind
    rw [fragContext_same hfind hhas.total]
    refine ⟨hhas, (Keyed.mem_of_find hfind).2, h.ids, ?_⟩
    intro x hx
    show Keyed.find FragItem.msgid (Keyed.replace FragItem.msgid chain x) m = some x
    have hthere : Keyed.find FragItem.msgid chain m = some item := hfind
    rw [Keyed.find_replace, if_pos hx.symm, hthere]
    rfl

end

section
variable {peer : Sa} {packet f : Bytes} {np np' : UInt8} {inner : Bytes} {n no : Nat}
  {chunk : Nat → Bytes} {frags : List Bytes} {others : List Nat} {start now : Nat}
  {chain : List FragItem} {seen : Finset Nat}

theorem ReadFragment.messageId (h : ReadFragment peer packet np no n (chunk no) f) :
    Ikev2.messageId f = Ikev2.messageId packet := by
  unfold Ikev2.messageId be32 be16
  rw [h.header 20 (by decide) (by decide), h.header 21 (by decide) (by decide),
    h.header 22 (by decide) (by decide), h.header 23 (by decide) (by decide)]

/-- a fragment is expected exactly if its number is new -/
theorem Holding.expected
    (h : Holding (messageId packet) n np chunk others start chain seen)
    (hread : ReadFragment peer packet np' no n (chunk no) f) :
    fragExpected chain f = decide (no ∉ seen) := by
  unfold fragExpected
  rw [hread.messageId, hread.ofTotal, hread.number]
  cases hfind : findAssembly chain (messageId packet) with
  | none =>
    rw [h.absent hfind]
    rfl
  | some item =>
    have hhas := h.present item hfind
    simp only [hhas.total, hhas.parts no, Nat.le_refl, decide_true, Bool.true_and]
    by_cases hno : no ∈ seen
    · rw [if_pos hno, decide_eq_false (not_not_intro hno)]
      rfl
    · rw [if_neg hno, decide_eq_true hno]
      rfl

/-- an assembly with all chunks is the message, one with fewer waits -/
theorem Assembled.finish (hfr : Fragmented peer packet np inner n chunk frags) {item : FragItem}
    (h : Assembled n np chunk start seen item) (hacc : item.Accounted)
    (hid : item.msgid = messageId packet) (hwithin : seen ⊆ Finset.Icc 1 n)
    (hread : ReadFragment peer packet np' no n (chunk no) f) :
    (seen = Finset.Icc 1 n → fragComplete chain f item
        = (removeAssembly chain (messageId packet), some (reassembled packet np inner)))
      ∧ (seen ≠ Finset.Icc 1 n → fragComplete chain f item
        = (replaceAssembly chain item, none)) := by
  have hcount : item.numReceived = seen.card := by
    rw [hacc.received, h.stored hacc]
  constructor
  · intro hall
    have hwait : ¬ item.numReceived < item.totalFragments := by
      rw [hcount, hall, h.total, Nat.card_Icc]
      omega
    have hmerge : mergeParts item.parts item.totalFragments = some inner := by
      rw [h.total, ← hfr.joins]
      apply mergeParts_congr
      intro i hpos hle
      rw [h.parts i, hall, if_pos (Finset.mem_Icc.mpr ⟨hpos, hle⟩)]
    have hone : (1 : Nat) ∈ seen := by
      rw [hall]
      exact Finset.mem_Icc.mpr ⟨Nat.le_refl 1, hfr.least⟩
    unfold fragComplete
    rw [if_neg hwait, hmerge, h.first hone, hid]
    simp only
    rw [reassembled_congr (fragAccepts_length hread.accepted) hfr.hasHeader hread.header]
  · intro hmore
    apply fragComplete_waiting
    rw [hcount, h.total]
    have hlt := Finset.card_lt_card (hwithin.ssubset_of_ne hmore)
    rw [Nat.card_Icc] at hlt
    omega

/-- what an assembly holds, with another chunk, is not more than the message -/
theorem Assembled.room (hfr : Fragmented peer packet np inner n chunk frags) {item : FragItem}
    (h : Assembled n np chunk start seen item) (hacc : item.Accounted)
    (hwithin : seen ⊆ Finset.Icc 1 n) (hpos : 1 ≤ no) (hle : no ≤ n) (hnew : no ∉ seen) :
    item.totalDataLen + (chunk no).length ≤ inner.length := by
  have hsame : ∑ i ∈ seen, ((item.parts i).getD []).length = ∑ i ∈ seen, (chunk i).length := by
    apply Finset.sum_congr rfl
    intro i hi
    rw [h.parts i, if_pos hi]
    rfl
  rw [hacc.dataLen, FragItem.storedLen, h.stored hacc, hsame]
  exact chunks_fit hfr.joins hwithin hpos hle hnew

/-- a new fragment of the message: the collector's step on the queue -/
theorem Holding.store (hfr : Fragmented peer packet np inner n chunk frags)
    (hsize : inner.length ≤ maxReasm)
    (h : Holding (messageId packet) n np chunk others start chain seen) (hafter : start ≤ now)
    (hpos : 1 ≤ no) (hle : no ≤ n) (hnew : no ∉ seen)
    (hread : ReadFragment peer packet (if no = 1 then np else 0) no n (chunk no) f) :
    (Insert.insert no seen = Finset.Icc 1 n →
        fragStore now chain f (chunk no)
          = (removeAssembly (fragContext now chain (messageId packet) n).1 (messageId packet),
            some (reassembled packet np inner)))
      ∧ (Insert.insert no seen ≠ Finset.Icc 1 n →
        fragStore now chain f (chunk no)
          = (replaceAssembly (fragContext now chain (messageId packet) n).1
              ((fragContext now chain (messageId packet) n).2.insert no
                (if no = 1 then np else 0) (chunk no)), none)) := by
  obtain ⟨hhas, hid, -, -⟩ := h.context hafter
  have hexp : fragExpected chain f = true := by
    rw [h.expected hread]
    exact decide_eq_true hnew
  have hspec := fragContext_spec now h.consistent hexp (by rw [hread.ofTotal]; exact hfr.most)
  simp only [hread.messageId, hread.ofTotal, hread.number] at hspec
  obtain ⟨-, -, htot, hacc, hfree⟩ := hspec
  have hlen := Nat.le_trans (hhas.room hfr hacc h.within hpos hle hnew) hsize
  have hstore : fragStore now chain f (chunk no)
      = fragComplete (fragContext now chain (messageId packet) n).1 f
        ((fragContext now chain (messageId packet) n).2.insert no (if no = 1 then np else 0)
          (chunk no)) := by
    unfold fragStore
    rw [hread.messageId, hread.ofTotal, hread.number, hread.firstType]
    exact if_neg (Nat.not_lt_of_le hlen)
  rw [hstore]
  exact (hhas.insert no (if no = 1 then np else 0) fun hone => if_pos hone).finish hfr
    (hacc.insert hfree hpos (by rw [htot]; exact hle) hlen) hid
    (Finset.insert_subset (Finset.mem_Icc.mpr ⟨hpos, hle⟩) h.within) hread

theorem fragRecv_inv {sa : Sa} (h : ChainInv chain) :
    ChainInv (fragRecv now { sa with fragChain := chain } f).1 := by
  rw [← fragRecvAlloc_never h]
  exact QueueCall.run_inv chain (.recv .never now sa f) h AllocFail.noConfusion

/-- the message has been returned: its assembly goes -/
theorem Holding.cleared (h : Holding (messageId packet) n np chunk others start chain seen)
    (hafter : start ≤ now) (hleast : 1 ≤ n)
    (hinv : ChainInv (removeAssembly (fragContext now chain (messageId packet) n).1
      (messageId packet))) :
    Holding (messageId packet) n np chunk others start
      (removeAssembly (fragContext now chain (messageId packet) n).1 (messageId packet)) ∅ := by
  obtain ⟨-, -, hids, -⟩ := h.context hafter
  have hgone : findAssembly (removeAssembly (fragContext now chain (messageId packet) n).1
      (messageId packet)) (messageId packet) = none := by
    show Keyed.find FragItem.msgid (Keyed.remove FragItem.msgid _ _) (messageId packet) = none
    rw [Keyed.find_remove, if_pos rfl]
  refine ⟨hinv, ?_, Finset.empty_subset _, ?_, fun _ => rfl, ?_⟩
  · exact fun item hmem => hids item (Keyed.mem_remove hmem).1
  · exact (Finset.nonempty_Icc.mpr hleast).ne_empty.symm
  · intro item hitem
    exact absurd (hgone.symm.trans hitem) (by simp)

/-- a chunk has been stored, and others are missing -/
theorem Holding.kept (h : Holding (messageId packet) n np chunk others start chain seen)
    (hafter : start ≤ now) (hpos : 1 ≤ no) (hle : no ≤ n)
    (hmore : Insert.insert no seen ≠ Finset.Icc 1 n)
    (hinv : ChainInv (replaceAssembly (fragContext now chain (messageId packet) n).1
      ((fragContext now chain (messageId packet) n).2.insert no (if no = 1 then np else 0)
        (chunk no)))) :
    Holding (messageId packet) n np chunk others start
      (replaceAssembly (fragContext now chain (messageId packet) n).1
        ((fragContext now chain (messageId packet) n).2.insert no (if no = 1 then np else 0)
          (chunk no))) (Insert.insert no seen) := by
  obtain ⟨hhas, hid, hids, hfind⟩ := h.context hafter
  have hthere := hfind ((fragContext now chain (messageId packet) n).2.insert no
    (if no = 1 then np else 0) (chunk no)) hid
  refine ⟨hinv, ?_, ?_, hmore, ?_, ?_⟩
  · intro item hmem
    rcases Keyed.mem_replace hmem with rfl | ⟨hmem, -⟩
    · exact .inl hid
    · exact hids item hmem
  · exact Finset.insert_subset (Finset.mem_Icc.mpr ⟨hpos, hle⟩) h.within
  · intro hnone
    exact absurd (hthere.symm.trans hnone) (by simp)
  · intro item hitem
    obtain rfl := Option.some.inj (hthere.symm.trans hitem)
    exact hhas.insert no _ fun hone => if_pos hone

/-- a fragment of the message -/
theorem Holding.own (hfr : Fragmented peer packet np inner n chunk frags)
    (hsize : inner.length ≤ maxReasm)
    (h : Holding (messageId packet) n np chunk others start chain seen) (hafter : start ≤ now)
    (hbefore : now ≤ start + fragTimeout) (hpos : 1 ≤ no) (hle : no ≤ n)
    (hread : ReadFragment peer packet (if no = 1 then np else 0) no n (chunk no) f) :
    (Insert.insert no seen = Finset.Icc 1 n →
        (fragRecv now { peer with fragChain := chain } f).2 = some (reassembled packet np inner)
        ∧ Holding (messageId packet) n np chunk others start
          (fragRecv now { peer with fragChain := chain } f).1 ∅)
      ∧ (Insert.insert no seen ≠ Finset.Icc 1 n →
        (fragRecv now { peer with fragChain := chain } f).2 = none
        ∧ Holding (messageId packet) n np chunk others start
          (fragRecv now { peer with fragChain := chain } f).1 (Insert.insert no seen)) := by
  have hexpire := h.expire hbefore
  have hinv := @fragRecv_inv f now chain peer h.consistent
  have hrecv : fragRecv now { peer with fragChain := chain } f
      = if !fragExpected (fragExpire now chain) f then (fragExpire now chain, none)
        else fragStore now (fragExpire now chain) f (chunk no) := by
    rw [fragRecv_eq, hread.accepted]
  rw [hexpire.expected hread] at hrecv
  by_cases hseen : no ∈ seen
  · -- a duplicate
    have hsame : Insert.insert no seen = seen := Finset.insert_eq_self.mpr hseen
    rw [decide_eq_false (not_not_intro hseen)] at hrecv
    have hdrop : fragRecv now { peer with fragChain := chain } f = (fragExpire now chain, none) :=
      hrecv
    rw [hsame, hdrop]
    exact ⟨fun hall => absurd hall h.missing, fun _ => ⟨rfl, hexpire⟩⟩
  · rw [decide_eq_true hseen] at hrecv
    have hstored : fragRecv now { peer with fragChain := chain } f
        = fragStore now (fragExpire now chain) f (chunk no) := hrecv
    obtain ⟨hcomplete, hwaiting⟩ := hexpire.store hfr hsize hafter hpos hle hseen hread
    constructor
    · intro hall
      rw [hstored.trans (hcomplete hall)] at hinv ⊢
      exact ⟨rfl, hexpire.cleared hafter hfr.least hinv⟩
    · intro hmore
      rw [hstored.trans (hwaiting hmore)] at hinv ⊢
      exact ⟨rfl, hexpire.kept hafter hpos hle hmore hinv⟩

end

section
variable {now m total : Nat} {chain : List FragItem} {packet data : Bytes}

/-- four message ids leave room for the assembly of one that is not there -/
theorem fragEvict_room {ids : List Nat} (h : ChainInv chain) (hids : ∀ item ∈ chain, item.msgid ∈ ids)
    (hlen : ids.length ≤ maxAssemblies) (hm : m ∈ ids) (hnone : findAssembly chain m = none) :
    fragEvict chain = chain := by
  have hpos := List.length_pos_of_mem hm
  have hsub : chain.map FragItem.msgid ⊆ ids.erase m := by
    intro i hi
    obtain ⟨item, hmem, rfl⟩ := List.mem_map.mp hi
    exact (List.mem_erase_of_ne (Keyed.find_eq_none.mp hnone item hmem)).mpr (hids item hmem)
  have hle := (List.subperm_of_subset h.distinct hsub).length_le
  rw [List.length_map, List.length_erase_of_mem hm] at hle
  unfold fragEvict
  rw [if_neg]
  omega

/-- another message is not touched -/
theorem FragOutcome.find_other {r : List FragItem × Option Bytes} (hne : m ≠ messageId packet)
    (hroom : findAssembly chain (messageId packet) = none → fragEvict chain = chain)
    (hid : (fragContext now chain (messageId packet) (skfTotal packet)).2.msgid = messageId packet)
    (hout : FragOutcome now chain packet data r) : findAssembly r.1 m = findAssembly chain m := by
  have hctx : Keyed.find FragItem.msgid
      (fragContext now chain (messageId packet) (skfTotal packet)).1 m
        = Keyed.find FragItem.msgid chain m := by
    cases hfind : findAssembly chain (messageId packet) with
    | none =>
      rw [fragContext_none hfind, hroom hfind, Keyed.find_append, if_neg (fun heq => hne heq.symm),
        Option.or_none]
    | some item => rw [fragContext_some hfind]
  have hreplace : ∀ x : FragItem, x.msgid = messageId packet →
      findAssembly (replaceAssembly (fragContext now chain (messageId packet) (skfTotal packet)).1 x)
        m = findAssembly chain m := by
    intro x hx
    show Keyed.find FragItem.msgid (Keyed.replace FragItem.msgid _ x) m = _
    rw [Keyed.find_replace, if_neg (fun heq => hne (heq.trans hx)), hctx]
    rfl
  have hremove : findAssembly (removeAssembly
      (fragContext now chain (messageId packet) (skfTotal packet)).1 (messageId packet)) m
        = findAssembly chain m := by
    show Keyed.find FragItem.msgid (Keyed.remove FragItem.msgid _ _) m = _
    rw [Keyed.find_remove, if_neg hne, hctx]
    rfl
  cases hout with
  | evicted hnone => rw [hroom hnone]
  | settled np =>
    unfold fragSettle
    simp only [hid]
    split
    · exact hremove
    · exact hreplace _ rfl
  | waiting hlen => exact hreplace _ hid
  | returned merged hmerge => exact hremove

end

section
variable {peer : Sa} {packet : Bytes} {np : UInt8} {inner : Bytes} {m n : Nat}
  {chunk : Nat → Bytes} {frags : List Bytes} {others : List Nat} {start now : Nat}
  {chain : List FragItem} {seen : Finset Nat}

/-- a fragment of another message, or one that is not accepted -/
theorem Holding.other (h : Holding m n np chunk others start chain seen)
    (hbefore : now ≤ start + fragTimeout) (hlen : others.length < maxAssemblies) (hm : m ∉ others)
    (hknown : messageId packet ∈ others ∨ fragAccepts peer packet = none) :
    ofMessage m (fragRecv now { peer with fragChain := chain } packet).2 = none
      ∧ Holding m n np chunk others start
        (fragRecv now { peer with fragChain := chain } packet).1 seen := by
  have hexpire := h.expire hbefore
  have hinv := @fragRecv_inv packet now chain peer h.consistent
  rw [← fragRecvAlloc_never h.consistent] at hinv ⊢
  rcases @recv_cases .never now peer chain packet h.consistent AllocFail.noConfusion with
    ⟨-, hdrop⟩ | ⟨data, haccept, hexp, hout⟩
  · rw [hdrop]
    exact ⟨rfl, hexpire⟩
  · have hother : messageId packet ∈ others := by
      refine hknown.resolve_right ?_
      rw [haccept]
      exact Option.some_ne_none data
    have hne : m ≠ messageId packet := fun heq => hm (heq ▸ hother)
    obtain ⟨hpos, hno, htotal⟩ := fragAccepts_number haccept
    obtain ⟨-, hid, -⟩ := fragContext_spec now hexpire.consistent hexp htotal
    have hids : ∀ item ∈ fragExpire now chain, item.msgid ∈ m :: others := by
      intro item hmem
      exact List.mem_cons.mpr (hexpire.ids item hmem)
    have hfind : findAssembly (fragRecvAlloc .never now peer chain packet).1 m
        = findAssembly (fragExpire now chain) m :=
      hout.find_other hne
        (fragEvict_room hexpire.consistent hids hlen (List.mem_cons_of_mem _ hother)) hid
    constructor
    · cases hpkt : (fragRecvAlloc .never now peer chain packet).2 with
      | none => rfl
      | some pkt =>
        obtain ⟨np', merged, -, rfl⟩ := hout.packet hpkt
        have hmid : messageId (reassembled packet np' merged) = messageId packet :=
          (reassembled_sameHeader (fragAccepts_length haccept) np' merged).2.2
        unfold ofMessage
        rw [Option.filter_some, if_neg]
        rw [beq_iff_eq, hmid]
        exact fun heq => hne heq.symm
    · refine ⟨hinv, ?_, h.within, h.missing, ?_, ?_⟩
      · intro item hmem
        rcases hout.items hexpire.consistent hexp haccept item hmem with ⟨hin, -⟩ | ⟨hitem, -⟩
        · exact hexpire.ids item hin
        · rw [hitem]
          exact .inr hother
      · rw [hfind]
        exact hexpire.absent
      · rw [hfind]
        exact hexpire.present

/-! ## runs -/

/-- the receiver answers when the collector does, with the packet -/
theorem receiveAll_collects (hfr : Fragmented peer packet np inner n chunk frags)
    (hsize : inner.length ≤ maxReasm) (hlen : others.length < maxAssemblies)
    (hm : messageId packet ∉ others) (ds : List Arrival)
    (hds : ∀ d ∈ ds, Arrives peer frags others start d) : ∀ chain seen,
    Holding (messageId packet) n np chunk others start chain seen →
      (receiveAll peer chain ds).map (ofMessage (messageId packet))
        = (Collect.run (Finset.Icc 1 n) seen (ds.map (numberIn frags))).map
          fun complete => if complete then some (reassembled packet np inner) else none := by
  induction ds with
  | nil =>
    intro chain seen _
    rfl
  | cons d ds ih =>
    intro chain seen h
    obtain ⟨hafter, hbefore, hknown⟩ := hds d List.mem_cons_self
    have hrest := ih fun d' hd' => hds d' (List.mem_cons_of_mem _ hd')
    rw [receiveAll, List.map_cons, List.map_cons]
    by_cases hown : d.packet ∈ frags
    · obtain ⟨no, hpos, hle, hread⟩ := hfr.read d.packet hown
      have hnumber : numberIn frags d = some no := by
        unfold numberIn
        rw [if_pos hown, hread.number]
      obtain ⟨hcomplete, hopen⟩ := h.own hfr hsize hafter hbefore hpos hle hread
      rw [hnumber]
      by_cases hall : Insert.insert no seen = Finset.Icc 1 n
      · obtain ⟨hpkt, hnext⟩ := hcomplete hall
        have hid : messageId (reassembled packet np inner) = messageId packet :=
          (reassembled_sameHeader hfr.hasHeader np inner).2.2
        have hthis : ofMessage (messageId packet) (some (reassembled packet np inner))
            = some (reassembled packet np inner) := by
          unfold ofMessage
          rw [Option.filter_some, if_pos]
          rw [hid]
          exact beq_self_eq_true _
        rw [Collect.run_complete hall, List.map_cons, hpkt, hthis, hrest _ _ hnext]
        rfl
      · obtain ⟨hpkt, hnext⟩ := hopen hall
        rw [Collect.run_open hall, List.map_cons, hpkt, hrest _ _ hnext]
        rfl
    · have hnumber : numberIn frags d = none := if_neg hown
      obtain ⟨hnone, hnext⟩ := h.other hbefore hlen hm (hknown.resolve_left hown)
      rw [hnumber, Collect.run_none, List.map_cons, hnone, hrest _ _ hnext]
      rfl

end

section
variable {sa : SendSa} {draws : Nat → Draws} {socket : Bool} {packet : Bytes} {frags : List Bytes}
  {c : Cipher} {a : Authenticator} {plan : FragPlan} {peer : Sa}

theorem holding_start {m n : Nat} {np : UInt8} {chunk : Nat → Bytes} {others : List Nat}
    {chain : List FragItem} (start : Nat) (hn : 1 ≤ n) (h : ChainInv chain)
    (hids : ∀ item ∈ chain, item.msgid ∈ others) (hm : m ∉ others) :
    Holding m n np chunk others start chain ∅ where
  consistent := h
  ids := fun item hmem => .inr (hids item hmem)
  within := Finset.empty_subset _
  missing := (Finset.nonempty_Icc.mpr hn).ne_empty.symm
  absent := fun _ => rfl
  present := by
    intro item hfind
    obtain ⟨hmem, hid⟩ := Keyed.mem_of_find hfind
    exact absurd (hid ▸ hids item hmem) hm

/-- The fragments of a message, in any order, with duplicates, between fragments of up to three other
messages and within the timeout: the message is returned, in the clear, at each arrival that completes
the fragments since the last return, at no other arrival; so not more often than any one fragment
arrives, and at least once if all arrive. -/
theorem fragments_round_trip (hideal : c.Ideal) (hmac : a.Ideal) (hc : sa.cipher = some c)
    (ha : sa.authenticator = some a) (hpeer : PeerOf sa.toSa peer)
    (hsup : peer.fragSupported = true) (hplan : fragPlan sa.toSa packet = some plan)
    (hsend : fragSend sa draws socket packet = some frags) (hsize : plan.inner.length ≤ maxReasm)
    (others : List Nat) (hothers : others.length ≤ 3) (hm : messageId packet ∉ others)
    (chain : List FragItem) (hchain : ChainInv chain) (hids : ∀ item ∈ chain, item.msgid ∈ others)
    (start : Nat) (ds : List Arrival) (hds : ∀ d ∈ ds, Arrives peer frags others start d) :
    (receiveAll peer chain ds).map (ofMessage (messageId packet))
        = (Collect.run (Finset.Icc 1 frags.length) ∅ (ds.map (numberIn frags))).map
          (fun complete => if complete then some (reassembled packet plan.np plan.inner) else none)
      ∧ Unsealed packet plan.np plan.inner (reassembled packet plan.np plan.inner)
      ∧ (∀ no, 1 ≤ no → no ≤ frags.length →
        ((receiveAll peer chain ds).map (ofMessage (messageId packet))).countP Option.isSome
          ≤ (ds.map (numberIn frags)).count (some no))
      ∧ ((∀ no, 1 ≤ no → no ≤ frags.length → some no ∈ ds.map (numberIn frags)) →
        some (reassembled packet plan.np plan.inner)
          ∈ (receiveAll peer chain ds).map (ofMessage (messageId packet)))
      ∧ ∀ draw exchType flags mid ps, packetConstruct sa draw exchType flags mid ps = some packet →
        encryptedPayloadLen c a sa.padConf draw.uint32 (chainOctets ps).length ≤ 65535 →
          plan.np = firstType ps ∧ plan.inner = chainOctets ps := by
  obtain ⟨chunk, hfr⟩ := fragSend_fragmented hideal hmac hc ha hpeer hsup hplan hsend
  have hcollect := receiveAll_collects hfr hsize (Nat.lt_succ_of_le hothers) hm ds hds chain ∅
    (holding_start start hfr.least hchain hids hm)
  refine ⟨hcollect, reassembled_unsealed hfr.hasHeader plan.np hsize, ?_, ?_, ?_⟩
  · intro no hpos hle
    have hcount := Collect.count_run_le (Finset.mem_Icc.mpr ⟨hpos, hle⟩)
      (ds.map (numberIn frags)) ∅
    rw [if_neg (Finset.notMem_empty no), Nat.add_zero] at hcount
    rw [hcollect, List.countP_map]
    refine Nat.le_trans (Nat.le_of_eq ?_) hcount
    rw [List.count]
    apply List.countP_congr
    intro complete _
    cases complete <;> exact Iff.rfl
  · intro hall
    rw [hcollect]
    refine List.mem_map.mpr ⟨true, ?_, rfl⟩
    have hstart := @holding_start (messageId packet) frags.length plan.np chunk others chain start
      hfr.least hchain hids hm
    apply Collect.report_of_all _ _ ∅ hstart.within hstart.missing
    · intro no hno
      obtain ⟨hpos, hle⟩ := Finset.mem_Icc.mp hno
      exact .inr (hall no hpos hle)
    · intro no hno
      obtain ⟨d, -, hd⟩ := List.mem_map.mp hno
      unfold numberIn at hd
      split at hd
      · rename_i hown
        obtain ⟨no', hpos, hle, hread⟩ := hfr.read d.packet hown
        rw [← Option.some.inj hd, hread.number]
        exact Finset.mem_Icc.mpr ⟨hpos, hle⟩
      · exact absurd hd (by simp)
  · intro draw exchType flags mid ps hbuilt hfits
    obtain ⟨work, hwork⟩ := fragPlan_constructed hideal hmac hc ha hbuilt hfits
    obtain rfl := Option.some.inj (hplan.symm.trans hwork)
    exact ⟨rfl, rfl⟩

end

/-- two fragments of a certificate, the last one first -/
theorem fragments_round_trip_cert :
    ∃ pkt plan frags, packetConstruct tagSend zeroDraws exchIkeAuth flagInitiator 1 certPushed
        = some pkt
      ∧ fragPlan tagSend.toSa pkt = some plan
      ∧ fragSend tagSend (fun _ => zeroDraws) true pkt = some frags ∧ frags.length = 2
      ∧ (receiveAll (tagSa false) [] (frags.reverse.map fun f => ⟨7, f⟩)).map
          (ofMessage (messageId pkt))
        = (Collect.run (Finset.Icc 1 frags.length) ∅
            ((frags.reverse.map fun f => (⟨7, f⟩ : Arrival)).map (numberIn frags))).map
          fun complete => if complete then some (reassembled pkt plan.np plan.inner) else none := by
  have hrun : ((packetConstruct tagSend zeroDraws exchIkeAuth flagInitiator 1 certPushed).bind
      fun pkt => (fragPlan tagSend.toSa pkt).bind fun plan =>
        (fragSend tagSend (fun _ => zeroDraws) true pkt).map fun frags =>
          (frags.length, plan.inner.length)) = some (2, 604) := by decide +kernel
  obtain ⟨pkt, hpkt, hrun⟩ := Option.bind_eq_some_iff.mp hrun
  obtain ⟨plan, hplan, hrun⟩ := Option.bind_eq_some_iff.mp hrun
  obtain ⟨frags, hsend, hlens⟩ := Option.map_eq_some_iff.mp hrun
  obtain ⟨htwo, hinner⟩ := Prod.mk.inj hlens
  refine ⟨pkt, plan, frags, hpkt, hplan, hsend, htwo, ?_⟩
  refine (fragments_round_trip tagCipher_ideal noMac_ideal rfl rfl tagSa_peer rfl hplan hsend
    (by rw [hinner]; decide) [] (Nat.zero_le 3) List.not_mem_nil [] chainInv_nil
    (fun item hmem => absurd hmem List.not_mem_nil) 7 _ ?_).1
  intro d hd
  obtain ⟨f, hf, rfl⟩ := List.mem_map.mp hd
  exact ⟨Nat.le_refl 7, Nat.le_add_right 7 _, .inl (List.mem_reverse.mp hf)⟩

/-- both fragments twice: the message is returned twice -/
theorem returned_twice :
    ∃ pkt frags, packetConstruct tagSend zeroDraws exchIkeAuth flagInitiator 1 certPushed = some pkt
      ∧ fragSend tagSend (fun _ => zeroDraws) true pkt = some frags ∧ frags.length = 2
      ∧ (receiveAll (tagSa false) [] ((frags ++ frags).map fun f => ⟨7, f⟩)).countP Option.isSome
        = 2 := by
  have hrun : ((packetConstruct tagSend zeroDraws exchIkeAuth flagInitiator 1 certPushed).bind
      fun pkt => (fragSend tagSend (fun _ => zeroDraws) true pkt).map fun frags =>
        (frags.length, (receiveAll (tagSa false) []
          ((frags ++ frags).map fun f => ⟨7, f⟩)).countP Option.isSome)) = some (2, 2) := by
    decide +kernel
  obtain ⟨pkt, hpkt, hrun⟩ := Option.bind_eq_some_iff.mp hrun
  obtain ⟨frags, hsend, hcounts⟩ := Option.map_eq_some_iff.mp hrun
  obtain ⟨htwo, hcount⟩ := Prod.mk.inj hcounts
  exact ⟨pkt, frags, hpkt, hsend, htwo, hcount⟩

end Ikev2
