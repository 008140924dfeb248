import Racoon2.Iked.Protect

/-!
# Sealing a message

`ikev2_payloads_to_blob`, `ikev2_encrypt` and `ikev2_packet_construct`, against the peer's
`ikev2_check_payloads`, `ikev2_check_icv` and `ikev2_decrypt`.  The cipher and the MAC are OpenSSL's;
`SendSa.Ideal` says what is asked of them: decryption undoes encryption, and the lengths are right.

The lengths of the Encrypted payload and of its plaintext are sums of arbitrary many payloads, the
field that holds the former has 16 bits.

* `encrypt_opens`             what `ikev2_encrypt` returns, decrypted and without its padding;
* `packet_readable_iff`       a constructed packet reads back exactly if its length fits the field.
-/

set_option linter.unusedVariables false

namespace Ikev2
open Bytes

/-! ## the sending side of an SA -/

/-- the cipher of an SA, with what sending needs of it -/
structure Cipher extends Encryptor where
  blockLength : Nat
  blockLength_pos : 0 < blockLength
  blockLength_le : blockLength ≤ 256
  /-- `encryptor_encrypt(data, key, iv)` -/
  encrypt : Bytes → Bytes → Bytes → Option Bytes
  /-- `encryptor_encrypt_aead(data, key, iv, aad)` -/
  encryptAead : Bytes → Bytes → Bytes → Bytes → Option Bytes

/-- decryption undoes encryption, on whole blocks where the cipher has any -/
structure Cipher.Ideal (c : Cipher) : Prop where
  length : ∀ {data key iv ct}, data.length % c.blockLength = 0 → iv.length = c.ivLength →
    c.encrypt data key iv = some ct → ct.length = data.length
  opens : ∀ {data key iv ct}, data.length % c.blockLength = 0 → iv.length = c.ivLength →
    c.encrypt data key iv = some ct → c.decrypt ct key iv = some data
  aead_length : ∀ {data key iv aad ct}, iv.length = c.ivLength →
    c.encryptAead data key iv aad = some ct → ct.length = data.length + c.icvLength
  aead_opens : ∀ {data key iv aad ct}, iv.length = c.ivLength →
    c.encryptAead data key iv aad = some ct → c.decryptAead ct key iv aad = some data

/-- the MAC is there, with the octets of it that are used -/
def Authenticator.Ideal (a : Authenticator) : Prop :=
  ∀ key data, ∃ out, a.calculate key data = some out ∧ a.outputLength ≤ out.length

/-- `ikev2_random_pad_content`, `ikev2_random_padlen` and `ikev2_max_padlen` of the remote -/
structure PadConf where
  randomPad : Bool
  randomPadlen : Bool
  maxPadlen : Nat

/-- what one call of `ikev2_encrypt` draws; `random_bytes` may fail -/
structure Draws where
  uint32 : Nat
  ivBytes : Nat → Option Bytes
  padBytes : Nat → Option Bytes
  iv_length : ∀ {n b}, ivBytes n = some b → b.length = n
  pad_length : ∀ {n b}, padBytes n = some b → b.length = n

/-- an SA that sends -/
structure SendSa extends Sa where
  cipher : Option Cipher
  padConf : PadConf
  same_cipher : encryptor = cipher.map Cipher.toEncryptor
  spiI_length : spiI.length = 8
  spiR_length : spiR.length = 8

def Sa.sendAuthKey (sa : Sa) : Option Bytes := if sa.isInitiator then sa.skAI else sa.skAR
def Sa.sendEncKey (sa : Sa) : Option Bytes := if sa.isInitiator then sa.skEI else sa.skER

/-- the other end of the SA: the same algorithms and keys, used the other way round -/
structure PeerOf (sa peer : Sa) : Prop where
  role : peer.isInitiator = !sa.isInitiator
  encryptor : peer.encryptor = sa.encryptor
  authenticator : peer.authenticator = sa.authenticator
  skAI : peer.skAI = sa.skAI
  skAR : peer.skAR = sa.skAR
  skEI : peer.skEI = sa.skEI
  skER : peer.skER = sa.skER

theorem PeerOf.recvEncKey {sa peer : Sa} (h : PeerOf sa peer) : peer.recvEncKey = sa.sendEncKey := by
  unfold Sa.recvEncKey Sa.sendEncKey
  rw [h.role, h.skER, h.skEI]
  cases sa.isInitiator <;> rfl

theorem PeerOf.recvAuthKey {sa peer : Sa} (h : PeerOf sa peer) :
    peer.recvAuthKey = sa.sendAuthKey := by
  unfold Sa.recvAuthKey Sa.sendAuthKey
  rw [h.role, h.skAR, h.skAI]
  cases sa.isInitiator <;> rfl

/-! ## `ikev2_encrypt` -/

/-- the least padding to a block -/
def minPad (block len : Nat) : Nat :=
  if block - (len + 1) % block = block then 0 else block - (len + 1) % block

/-- the blocks of padding beyond the least -/
def extraBlocks (conf : PadConf) (draw block pad : Nat) : Nat :=
  let maxPadlen := min conf.maxPadlen 255
  let n := if 0 < maxPadlen ∧ pad + block < maxPadlen then (maxPadlen - pad) / block else 0
  if conf.randomPadlen then
    draw % ((if maxPadlen = 0 then (255 - pad) / block else n) + 1)
  else n

/-- `pad_len` for `len` octets of payloads -/
def padLen (c : Cipher) (conf : PadConf) (draw len : Nat) : Nat :=
  if 0 < c.icvLength then 0
  else
    minPad c.blockLength len
      + extraBlocks conf draw c.blockLength (minPad c.blockLength len) * c.blockLength

/-- the padding: random octets, or `pad_len` down to one -/
def padContent (conf : PadConf) (draws : Draws) (n : Nat) : Option Bytes :=
  if conf.randomPad then draws.padBytes n
  else some ((List.range n).map fun i => UInt8.ofNat (n - i))

/-- `ikev2_encrypt`, with the keys of the sending direction -/
def encrypt (c : Cipher) (conf : PadConf) (draws : Draws) (key payloads aad : Bytes) :
    Option Bytes :=
  let padlen := padLen c conf draws.uint32 payloads.length
  match draws.ivBytes c.ivLength, padContent conf draws padlen with
  | some iv, some pad =>
    let plaintext := payloads ++ pad ++ [UInt8.ofNat padlen]
    let encrypted :=
      if 0 < c.icvLength then c.encryptAead plaintext key iv aad else c.encrypt plaintext key iv
    encrypted.map (iv ++ ·)
  | _, _ => none

/-- the octets of padding and of the Pad Length field -/
def sealedLen (c : Cipher) (conf : PadConf) (draw len : Nat) : Nat :=
  len + padLen c conf draw len + 1

section
variable {c : Cipher} {conf : PadConf} {draws : Draws} {key payloads aad out : Bytes}

theorem minPad_lt (c : Cipher) (len : Nat) : minPad c.blockLength len < c.blockLength := by
  have hpos := c.blockLength_pos
  unfold minPad
  split
  · exact hpos
  · omega

theorem minPad_fills (c : Cipher) (len : Nat) :
    (len + minPad c.blockLength len + 1) % c.blockLength = 0 := by
  have hpos := c.blockLength_pos
  have hlt := Nat.mod_lt (len + 1) hpos
  have hdiv := Nat.div_add_mod (len + 1) c.blockLength
  unfold minPad
  split
  · rename_i hfull
    have hzero : (len + 1) % c.blockLength = 0 := by omega
    rw [Nat.add_zero]
    exact hzero
  · have hsum : len + (c.blockLength - (len + 1) % c.blockLength) + 1
        = c.blockLength * ((len + 1) / c.blockLength + 1) := by
      rw [Nat.mul_add, Nat.mul_one]
      omega
    rw [hsum]
    exact Nat.mul_mod_right _ _

/-- the padding stays within the Pad Length octet -/
theorem padLen_le (c : Cipher) (conf : PadConf) (draw len : Nat) : padLen c conf draw len ≤ 255 := by
  have hpos := c.blockLength_pos
  have hle := c.blockLength_le
  have hmin := minPad_lt c len
  unfold padLen
  split
  · omega
  · -- the extra blocks are at most what is left of the limit
    have hextra : ∀ limit, limit ≤ 255 → minPad c.blockLength len ≤ limit → ∀ n,
        n ≤ (limit - minPad c.blockLength len) / c.blockLength →
        minPad c.blockLength len + n * c.blockLength ≤ 255 := by
      intro limit hlimit hfit n hn
      have hmul := Nat.mul_le_mul_right c.blockLength hn
      have hdiv := Nat.div_mul_le_self (limit - minPad c.blockLength len) c.blockLength
      omega
    have hplain : ∀ limit, limit ≤ 255 →
        (if 0 < limit ∧ minPad c.blockLength len + c.blockLength < limit
          then (limit - minPad c.blockLength len) / c.blockLength else 0)
          ≤ (255 - minPad c.blockLength len) / c.blockLength := by
      intro limit hlimit
      split
      · exact Nat.div_le_div_right (by omega)
      · exact Nat.zero_le _
    have hbound : extraBlocks conf draw c.blockLength (minPad c.blockLength len)
        ≤ (255 - minPad c.blockLength len) / c.blockLength := by
      unfold extraBlocks
      simp only
      split
      · apply Nat.le_trans (Nat.le_of_lt_succ (Nat.mod_lt _ (Nat.succ_pos _)))
        split
        · exact Nat.le_refl _
        · exact hplain _ (Nat.min_le_right _ _)
      · exact hplain _ (Nat.min_le_right _ _)
    exact hextra 255 (Nat.le_refl _) (by omega) _ hbound

/-- a cipher without a tag gets whole blocks -/
theorem sealedLen_blocks (hcbc : c.icvLength = 0) (draw len : Nat) :
    sealedLen c conf draw len % c.blockLength = 0 := by
  unfold sealedLen padLen
  rw [if_neg (by omega)]
  have hfill := minPad_fills c len
  have hsum : len + (minPad c.blockLength len
      + extraBlocks conf draw c.blockLength (minPad c.blockLength len) * c.blockLength) + 1
      = len + minPad c.blockLength len + 1
        + extraBlocks conf draw c.blockLength (minPad c.blockLength len) * c.blockLength := by omega
  rw [hsum, Nat.add_mul_mod_self_right]
  exact hfill

theorem padContent_length {n : Nat} {pad : Bytes} (h : padContent conf draws n = some pad) :
    pad.length = n := by
  unfold padContent at h
  split at h
  · exact draws.pad_length h
  · rw [← Option.some.inj h, List.length_map, List.length_range]

theorem stripPadding_padded (payloads pad : Bytes) (h : pad.length ≤ 255) :
    stripPadding (payloads ++ pad ++ [UInt8.ofNat pad.length]) = some payloads := by
  have hlast : (UInt8.ofNat pad.length).toNat = pad.length := octet_value (by omega)
  unfold stripPadding
  rw [List.getLast?_concat]
  simp only [hlast, List.length_append, List.length_singleton]
  rw [if_neg (by omega)]
  have hcut : payloads.length + pad.length + 1 - pad.length - 1 = payloads.length := by omega
  rw [hcut, List.append_assoc, List.take_left']
  rfl

/-- `ikev2_encrypt` puts the IV in front of a ciphertext of known length, and decryption gives the
payloads back with their padding. -/
theorem encrypt_opens (hideal : c.Ideal)
    (h : encrypt c conf draws key payloads aad = some out) :
    ∃ iv ct plain, out = iv ++ ct ∧ iv.length = c.ivLength
      ∧ ct.length = sealedLen c conf draws.uint32 payloads.length + c.icvLength
      ∧ (if 0 < c.icvLength then c.decryptAead ct key iv aad else c.decrypt ct key iv) = some plain
      ∧ stripPadding plain = some payloads := by
  unfold encrypt at h
  simp only at h
  split at h
  · rename_i iv pad hiv hpad
    have hivlen := draws.iv_length hiv
    have hpadlen := padContent_length hpad
    have hle := padLen_le c conf draws.uint32 payloads.length
    obtain ⟨ct, hct, rfl⟩ := Option.map_eq_some_iff.mp h
    rw [← hpadlen] at hct hle
    have hlen : (payloads ++ pad ++ [UInt8.ofNat pad.length]).length
        = sealedLen c conf draws.uint32 payloads.length := by
      unfold sealedLen
      rw [List.length_append, List.length_append, hpadlen]
      rfl
    refine ⟨iv, ct, payloads ++ pad ++ [UInt8.ofNat pad.length], rfl, hivlen, ?_, ?_,
      stripPadding_padded payloads pad hle⟩
    · by_cases haead : 0 < c.icvLength
      · rw [if_pos haead] at hct
        rw [hideal.aead_length hivlen hct, hlen]
      · rw [if_neg haead] at hct
        have hblocks : (payloads ++ pad ++ [UInt8.ofNat pad.length]).length % c.blockLength = 0 := by
          rw [hlen]
          exact sealedLen_blocks (by omega) _ _
        rw [hideal.length hblocks hivlen hct, hlen]
        omega
    · by_cases haead : 0 < c.icvLength
      · rw [if_pos haead] at hct ⊢
        exact hideal.aead_opens hivlen hct
      · rw [if_neg haead] at hct ⊢
        have hblocks : (payloads ++ pad ++ [UInt8.ofNat pad.length]).length % c.blockLength = 0 := by
          rw [hlen]
          exact sealedLen_blocks (by omega) _ _
        exact hideal.opens hblocks hivlen hct
  · exact absurd h (by simp)

end

/-! ## payload chains -/

/-- a payload that `ikev2_payloads_push` took -/
structure Pushed where
  type : UInt8
  data : Bytes
  some_type : type ≠ noNextPayload

/-- the type in front of a chain -/
def firstType : List Pushed → UInt8
  | [] => noNextPayload
  | p :: _ => p.type

def payloadOctetsOf (next : UInt8) (data : Bytes) : Bytes :=
  [next, 0] ++ enc16 (payloadHeaderSize + data.length) ++ data

def chainOctets : List Pushed → Bytes
  | [] => []
  | p :: ps => payloadOctetsOf (firstType ps) p.data ++ chainOctets ps

/-- `ikev2_payloads_to_blob` -/
def payloadsToBlob (ps : List Pushed) : Option Bytes :=
  if ps.any fun p => decide (0xFFFF - payloadHeaderSize < p.data.length) then none
  else some (chainOctets ps)

/-- the loop of a handler that looks at the type and the body of every payload -/
def collectPayloads : Visit (List (UInt8 × Bytes)) :=
  fun seen type octets => .inl (seen ++ [(type, octets.drop payloadHeaderSize)])

section
variable {next : UInt8} {data rest : Bytes}

theorem payload_read (next : UInt8) (rest : Bytes) (h : payloadHeaderSize + data.length < 65536) :
    let p := payloadOctetsOf next data ++ rest
    payloadLength p = payloadHeaderSize + data.length ∧ payloadNext p = next
      ∧ payloadOctets p = payloadOctetsOf next data ∧ pointNext p = rest
      ∧ (payloadOctetsOf next data).drop payloadHeaderSize = data
      ∧ p.length = payloadHeaderSize + data.length + rest.length := by
  intro p
  have hlen : (payloadOctetsOf next data).length = payloadHeaderSize + data.length := by
    unfold payloadOctetsOf
    rw [List.length_append]
    rfl
  have hfield : payloadLength p = payloadHeaderSize + data.length := octets_value h
  refine ⟨hfield, rfl, ?_, ?_, rfl, ?_⟩
  · unfold payloadOctets
    rw [hfield, ← hlen, List.take_left']
    rfl
  · unfold pointNext
    rw [hfield, ← hlen, List.drop_left']
    rfl
  · show (payloadOctetsOf next data ++ rest).length = _
    rw [List.length_append, hlen]

/-- the walk over a chain sees every payload; induction over the chain -/
theorem walkLoop_chain (ps : List Pushed) : ∀ (n : Nat) (seen : List (UInt8 × Bytes)),
    (∀ p ∈ ps, payloadHeaderSize + p.data.length < 65536) → (chainOctets ps).length < n →
      walkLoop collectPayloads n seen (firstType ps) (chainOctets ps)
        = .reached (seen ++ ps.map fun p => (p.type, p.data)) := by
  induction ps with
  | nil =>
    intro n seen _ hn
    obtain ⟨n, rfl⟩ : ∃ n', n = n' + 1 := ⟨n - 1, by omega⟩
    rw [List.map_nil, List.append_nil]
    exact walkLoop_reached collectPayloads n seen []
  | cons p ps ih =>
    intro n seen hbodies hn
    obtain ⟨n, rfl⟩ : ∃ n', n = n' + 1 := ⟨n - 1, by omega⟩
    obtain ⟨hlen, hnext, hoctets, hpoint, hbody, hsize⟩ :=
      payload_read (firstType ps) (chainOctets ps) (hbodies p List.mem_cons_self)
    have hn' : (payloadOctetsOf (firstType ps) p.data ++ chainOctets ps).length < n + 1 := hn
    show walkLoop collectPayloads (n + 1) seen p.type
      (payloadOctetsOf (firstType ps) p.data ++ chainOctets ps) = _
    rw [walkLoop, if_neg p.some_type, hlen, if_neg (by omega), if_neg (by omega), hoctets, hnext,
      hpoint]
    show walkLoop collectPayloads n
      (seen ++ [(p.type, (payloadOctetsOf (firstType ps) p.data).drop payloadHeaderSize)])
      (firstType ps) (chainOctets ps) = _
    rw [hbody, ih n _ (fun q hq => hbodies q (List.mem_cons_of_mem _ hq))
      (by rw [hsize] at hn'; unfold payloadHeaderSize at hn'; omega), List.append_assoc]
    rfl

end

/-! ## `ikev2_packet_construct` -/

def ikev2Version : UInt8 := 0x20

/-- the header of a message -/
structure HeaderFields where
  spiI : Bytes
  spiR : Bytes
  spiI_length : spiI.length = 8
  spiR_length : spiR.length = 8
  exchType : UInt8
  flags : UInt8
  messageId : Nat

def HeaderFields.octets (h : HeaderFields) (np : UInt8) (len : Nat) : Bytes :=
  h.spiI ++ (h.spiR ++ ([np, ikev2Version, h.exchType, h.flags] ++ enc32 h.messageId ++ enc32 len))

def SendSa.header (sa : SendSa) (exchType flags : UInt8) (messageId : Nat) : HeaderFields :=
  ⟨sa.spiI, sa.spiR, sa.spiI_length, sa.spiR_length, exchType, flags, messageId⟩

/-- the header of the Encrypted payload in front of `n` octets -/
def encryptedHeader (np : UInt8) (n : Nat) : Bytes := [np, 0] ++ enc16 (payloadHeaderSize + n)

/-- the part of `ikev2_packet_construct` behind `ikev2_encrypt`; without a MAC the ICV stays zero -/
def finishPacket (h : HeaderFields) (np : UInt8) (c : Cipher) (a : Authenticator) (authKey : Bytes)
    (encrypted : Bytes) : Bytes :=
  let extra := if 0 < c.icvLength then 0 else a.outputLength
  let body := h.octets payloadEncrypted
      (headerSize + payloadHeaderSize + encrypted.length + extra)
    ++ encryptedHeader np (encrypted.length + extra) ++ encrypted
  if 0 < c.icvLength then body
  else match a.calculate authKey body with
    | none => body ++ List.replicate a.outputLength 0
    | some out => body ++ out.take a.outputLength

/-- the additional data of a combined-mode cipher -/
def packetAad (h : HeaderFields) (np : UInt8) (c : Cipher) (len : Nat) : Bytes :=
  h.octets payloadEncrypted (headerSize + payloadHeaderSize + (c.ivLength + (len + 1) + c.icvLength))
    ++ encryptedHeader np (c.ivLength + (len + 1) + c.icvLength)

/-- `ikev2_packet_construct`; the assertions on the keys end in `none` -/
def packetConstruct (sa : SendSa) (draws : Draws) (exchType flags : UInt8) (messageId : Nat)
    (ps : List Pushed) : Option Bytes :=
  let h := sa.header exchType flags messageId
  match payloadsToBlob ps with
  | none => none
  | some blob =>
    match sa.cipher with
    | none => some (h.octets (firstType ps) (headerSize + blob.length) ++ blob)
    | some c =>
      match sa.authenticator, sa.sendEncKey with
      | some a, some key =>
        match (if 0 < c.icvLength then some [] else sa.sendAuthKey) with
        | none => none
        | some authKey =>
          let aad := if 0 < c.icvLength then packetAad h (firstType ps) c blob.length else []
          (encrypt c sa.padConf draws key blob aad).map
            (finishPacket h (firstType ps) c a authKey)
      | _, _ => none

/-- the octets of the Encrypted payload, header included -/
def encryptedPayloadLen (c : Cipher) (a : Authenticator) (conf : PadConf) (draw len : Nat) : Nat :=
  payloadHeaderSize + c.ivLength + sealedLen c conf draw len + icvLength c.toEncryptor a

section
variable {h : HeaderFields} {np : UInt8} {len : Nat} {rest : Bytes}

theorem HeaderFields.octets_length (h : HeaderFields) (np : UInt8) (len : Nat) :
    (h.octets np len).length = headerSize := by
  unfold HeaderFields.octets
  rw [List.length_append, List.length_append, h.spiI_length, h.spiR_length]
  rfl

/-- the octets from the next-payload field on -/
theorem HeaderFields.byteAt_octets (h : HeaderFields) (np : UInt8) (len i : Nat) (rest : Bytes) :
    byteAt (h.octets np len ++ rest) (16 + i)
      = byteAt ([np, ikev2Version, h.exchType, h.flags] ++ enc32 h.messageId ++ enc32 len ++ rest)
          i := by
  have hoff : 16 + i = h.spiI.length + (h.spiR.length + i) := by
    rw [h.spiI_length, h.spiR_length]
    omega
  unfold HeaderFields.octets
  rw [hoff, List.append_assoc, byteAt_append_right, List.append_assoc, byteAt_append_right]

theorem HeaderFields.be16_octets (h : HeaderFields) (np : UInt8) (len i : Nat) (rest : Bytes) :
    be16 (h.octets np len ++ rest) (16 + i)
      = be16 ([np, ikev2Version, h.exchType, h.flags] ++ enc32 h.messageId ++ enc32 len ++ rest)
          i := by
  unfold be16
  rw [h.byteAt_octets, Nat.add_assoc, h.byteAt_octets]

theorem HeaderFields.nextPayload_octets (h : HeaderFields) (np : UInt8) (len : Nat) (rest : Bytes) :
    nextPayload (h.octets np len ++ rest) = np := h.byteAt_octets np len 0 rest

theorem HeaderFields.headerLength_octets (h : HeaderFields) (np : UInt8) (rest : Bytes)
    (hlen : len < 2 ^ 32) : headerLength (h.octets np len ++ rest) = len := by
  have hvalue := be32_enc32 hlen rest
  unfold be32 at hvalue
  show be16 _ (16 + 8) * 65536 + be16 _ (16 + 10) = len
  rw [h.be16_octets, h.be16_octets]
  exact hvalue

theorem HeaderFields.firstPayload_octets (h : HeaderFields) (np : UInt8) (len : Nat)
    (rest : Bytes) : firstPayload (h.octets np len ++ rest) = rest := by
  unfold firstPayload
  rw [← h.octets_length np len, List.drop_left']
  rfl

theorem HeaderFields.putLength_octets (h : HeaderFields) (np : UInt8) (len n : Nat) (rest : Bytes) :
    putLength (h.octets np len ++ rest) n = h.octets np n ++ rest := by
  have hsplit : ∀ k, h.octets np k
      = (h.spiI ++ (h.spiR ++ ([np, ikev2Version, h.exchType, h.flags] ++ enc32 h.messageId)))
        ++ enc32 k := by
    intro k
    unfold HeaderFields.octets
    simp only [List.append_assoc]
  have hfront : (h.spiI ++ (h.spiR ++ ([np, ikev2Version, h.exchType, h.flags]
      ++ enc32 h.messageId))).length = 24 := by
    rw [List.length_append, List.length_append, h.spiI_length, h.spiR_length]
    rfl
  unfold putLength put
  rw [hsplit len, hsplit n, List.append_assoc _ (enc32 len), ← hfront, List.take_left',
    List.append_assoc, enc32_length]
  · have hdrop := @List.drop_length_add_append _ (h.spiI ++ (h.spiR ++ ([np, ikev2Version,
      h.exchType, h.flags] ++ enc32 h.messageId))) (enc32 len ++ rest) 4
    rw [hdrop]
    show _ ++ (enc32 n ++ rest) = _
    simp only [List.append_assoc]
  · rfl

end

/-! ## reading a packet back -/

/-- the packet passes the peer's checks, and the decrypted chain is the pushed one; every length
field holds the true size -/
structure ReadBack (peer : Sa) (pkt : Bytes) (ps : List Pushed) : Prop where
  checked : checkPayloads pkt true = true
  icv : checkIcv peer pkt = true
  decrypted : ∃ plain, decrypt peer pkt = some plain ∧ headerLength plain = plain.length
    ∧ walk collectPayloads [] plain
      = .reached ((payloadEncrypted, []) :: ps.map fun p => (p.type, p.data))
  length : headerLength pkt = pkt.length
  payload : payloadLength (firstPayload pkt) = (firstPayload pkt).length

/-- a packet with one Encrypted payload around `data` -/
def sealedPacket (h : HeaderFields) (np : UInt8) (data : Bytes) : Bytes :=
  h.octets payloadEncrypted (headerSize + payloadHeaderSize + data.length)
    ++ payloadOctetsOf np data

section
variable {h : HeaderFields} {np : UInt8} {data : Bytes}

theorem sealedPacket_length (h : HeaderFields) (np : UInt8) (data : Bytes) :
    (sealedPacket h np data).length = headerSize + payloadHeaderSize + data.length := by
  unfold sealedPacket payloadOctetsOf
  rw [List.length_append, h.octets_length, List.length_append, Nat.add_assoc]
  rfl

theorem sealedPacket_payload (h : HeaderFields) (np : UInt8) (data : Bytes) :
    (sealedPacket h np data).drop headerSize = payloadOctetsOf np data ++ [] := by
  rw [List.append_nil]
  exact h.firstPayload_octets _ _ _

theorem findEncrypted_sealed (h : HeaderFields) (np : UInt8) (data : Bytes) :
    findEncrypted (sealedPacket h np data) = some headerSize := by
  unfold findEncrypted sealedPacket
  rw [h.nextPayload_octets, encryptedOffset, if_neg (by decide), if_pos rfl]

theorem checkPayloads_sealed (hlen : payloadHeaderSize + data.length < 65536) :
    checkPayloads (sealedPacket h np data) true = true := by
  obtain ⟨hfield, -, -, hpoint, -, hsize⟩ := payload_read np [] hlen
  have h4 : payloadHeaderSize = 4 := rfl
  have h28 : headerSize = 28 := rfl
  have hpkt := sealedPacket_length h np data
  have hheader : headerLength (sealedPacket h np data)
      = headerSize + payloadHeaderSize + data.length :=
    h.headerLength_octets _ _ (by omega)
  have hone : checkOne payloadEncrypted (payloadOctetsOf np data ++ []) = true := by
    unfold checkOne
    have hmin : minimumLength payloadEncrypted = 4 := by decide
    have hbody : checkBody payloadEncrypted (payloadOctetsOf np data ++ []) = true := rfl
    rw [hbody, hfield, hmin, hsize]
    simp [h4]
  unfold checkPayloads
  rw [if_neg (by omega), if_neg (by omega)]
  have hnext : nextPayload (sealedPacket h np data) = payloadEncrypted := h.nextPayload_octets _ _ _
  have hfirst : firstPayload (sealedPacket h np data) = payloadOctetsOf np data ++ [] :=
    sealedPacket_payload h np data
  rw [hnext, hfirst, checkLoop, if_neg (by decide), hone, hpoint]
  rfl

/-- the header and the payload header of a packet with `n` octets of sealed data -/
def sealedFront (h : HeaderFields) (np : UInt8) (n : Nat) : Bytes :=
  h.octets payloadEncrypted (headerSize + payloadHeaderSize + n) ++ encryptedHeader np n

theorem sealedFront_length (h : HeaderFields) (np : UInt8) (n : Nat) :
    (sealedFront h np n).length = headerSize + payloadHeaderSize := by
  unfold sealedFront
  rw [List.length_append, h.octets_length]
  rfl

theorem sealedPacket_eq (h : HeaderFields) (np : UInt8) (data : Bytes) :
    sealedPacket h np data = sealedFront h np data.length ++ data := by
  unfold sealedPacket sealedFront payloadOctetsOf encryptedHeader
  simp only [List.append_assoc]

theorem sealedPacket_take (h : HeaderFields) (np : UInt8) (data : Bytes) :
    (sealedPacket h np data).take (headerSize + payloadHeaderSize)
      = sealedFront h np data.length := by
  rw [sealedPacket_eq, List.take_left' (sealedFront_length h np data.length)]

theorem sealedPacket_slice (h : HeaderFields) (np : UInt8) (data : Bytes) (i n : Nat) :
    slice (sealedPacket h np data) (headerSize + payloadHeaderSize + i) n = slice data i n := by
  have hslice := slice_append_right (sealedFront h np data.length) data i n
  rw [sealedFront_length] at hslice
  rw [sealedPacket_eq]
  exact hslice

/-- the packet of a combined-mode cipher ends with its tag, any other with the MAC -/
theorem finishPacket_eq {c : Cipher} {a : Authenticator} (hmac : a.Ideal) (h : HeaderFields)
    (np : UInt8) (authKey encrypted : Bytes) :
    ∃ icv, finishPacket h np c a authKey encrypted = sealedPacket h np (encrypted ++ icv)
      ∧ icv.length = (if 0 < c.icvLength then 0 else a.outputLength)
      ∧ (¬ 0 < c.icvLength → ∃ out, icv = out.take a.outputLength
          ∧ a.calculate authKey ((sealedPacket h np (encrypted ++ icv)).take
              (headerSize + payloadHeaderSize + encrypted.length)) = some out) := by
  have hshape : ∀ icv : Bytes, sealedFront h np (encrypted.length + icv.length) ++ encrypted ++ icv
      = sealedPacket h np (encrypted ++ icv) := by
    intro icv
    rw [sealedPacket_eq, List.length_append, List.append_assoc]
  have hbody : ∀ extra, h.octets payloadEncrypted
        (headerSize + payloadHeaderSize + encrypted.length + extra)
      ++ encryptedHeader np (encrypted.length + extra) ++ encrypted
        = sealedFront h np (encrypted.length + extra) ++ encrypted := by
    intro extra
    unfold sealedFront
    rw [Nat.add_assoc (headerSize + payloadHeaderSize)]
  unfold finishPacket
  simp only [hbody]
  by_cases haead : 0 < c.icvLength
  · refine ⟨[], ?_, ?_, fun hno => absurd haead hno⟩
    · rw [if_pos haead, if_pos haead, ← hshape, List.append_nil]
      rfl
    · rw [if_pos haead]
      rfl
  · obtain ⟨out, hout, hlen⟩ := hmac authKey
      (sealedFront h np (encrypted.length + a.outputLength) ++ encrypted)
    have htake : (out.take a.outputLength).length = a.outputLength := by
      rw [List.length_take]
      omega
    have heq := hshape (out.take a.outputLength)
    rw [htake] at heq
    have hcut : (sealedPacket h np (encrypted ++ out.take a.outputLength)).take
        (headerSize + payloadHeaderSize + encrypted.length)
        = sealedFront h np (encrypted.length + a.outputLength) ++ encrypted := by
      rw [← heq]
      apply List.take_left'
      rw [List.length_append, sealedFront_length]
    refine ⟨out.take a.outputLength, ?_, ?_, fun _ => ⟨out, rfl, ?_⟩⟩
    · rw [if_neg haead, if_neg haead, hout]
      exact heq
    · rw [if_neg haead, htake]
    · rw [hcut]
      exact hout

/-- the chain of a decrypted packet -/
theorem walk_decrypted (h : HeaderFields) (n : Nat) (ps : List Pushed)
    (hbodies : ∀ p ∈ ps, payloadHeaderSize + p.data.length < 65536) :
    walk collectPayloads [] (h.octets payloadEncrypted n
        ++ (payloadOctetsOf (firstType ps) [] ++ chainOctets ps))
      = .reached ((payloadEncrypted, []) :: ps.map fun p => (p.type, p.data)) := by
  have h4 : payloadHeaderSize = 4 := rfl
  obtain ⟨hlen, hnext, hoctets, hpoint, hbody, hsize⟩ :=
    @payload_read [] (firstType ps) (chainOctets ps) (by decide)
  have hlast := walkLoop_chain ps
  unfold walk
  rw [h.nextPayload_octets, h.firstPayload_octets, walkLoop, if_neg (by decide), hlen,
    if_neg (by rw [hsize]; omega), if_neg (by rw [hsize]; omega), hoctets, hnext, hpoint]
  show walkLoop collectPayloads _
    [(payloadEncrypted, (payloadOctetsOf (firstType ps) []).drop payloadHeaderSize)]
    (firstType ps) (chainOctets ps) = _
  rw [hbody, hlast _ _ hbodies]
  · rfl
  · rw [List.length_append, hsize, h.octets_length]
    unfold headerSize
    omega

theorem sealedPacket_data (h : HeaderFields) (np : UInt8) {data : Bytes}
    (hfits : payloadHeaderSize + data.length < 65536) :
    payloadDataLength ((sealedPacket h np data).drop headerSize) = data.length := by
  obtain ⟨hfield, -⟩ := payload_read np [] hfits
  rw [sealedPacket_payload]
  unfold payloadDataLength
  rw [hfield, Nat.add_sub_cancel_left]

/-- the IV and the ciphertext are found where they were put -/
theorem openEncrypted_sealed {c : Cipher} {a : Authenticator} {key iv ct icv : Bytes}
    (hiv : iv.length = c.ivLength)
    (hicv : icv.length = if 0 < c.icvLength then 0 else a.outputLength)
    (hfits : payloadHeaderSize + (iv ++ ct ++ icv).length < 65536) :
    openEncrypted c.toEncryptor key (sealedPacket h np (iv ++ ct ++ icv)) headerSize
        (icvLength c.toEncryptor a)
      = if 0 < c.icvLength
        then c.decryptAead ct key iv (sealedFront h np (iv ++ ct ++ icv).length)
        else c.decrypt ct key iv := by
  have hlen : (iv ++ ct ++ icv).length = c.ivLength + ct.length + icv.length := by
    rw [List.length_append, List.length_append, hiv]
  have hivs : slice (sealedPacket h np (iv ++ ct ++ icv)) (headerSize + 4) c.ivLength = iv := by
    have hs := sealedPacket_slice h np (iv ++ ct ++ icv) 0 c.ivLength
    rw [List.append_assoc] at hs ⊢
    exact hs.trans (slice_zero_append _ _ _ hiv)
  have hcts : slice (sealedPacket h np (iv ++ ct ++ icv)) (headerSize + 4 + c.ivLength) ct.length
      = ct := by
    have hs := sealedPacket_slice h np (iv ++ ct ++ icv) (c.ivLength + 0) ct.length
    rw [← hiv, List.append_assoc, slice_append_right, ← List.append_assoc, hiv] at hs
    exact hs.trans (slice_zero_append _ _ _ rfl)
  have haad : (sealedPacket h np (iv ++ ct ++ icv)).take (headerSize + 4)
      = sealedFront h np (iv ++ ct ++ icv).length := sealedPacket_take h np _
  unfold openEncrypted
  simp only [sealedPacket_data h np hfits, hivs, haad]
  by_cases haead : 0 < c.icvLength
  · rw [if_pos haead] at hicv
    have hn : (iv ++ ct ++ icv).length - c.ivLength = ct.length := by omega
    rw [if_pos haead, if_pos haead, hn, hcts]
  · rw [if_neg haead] at hicv
    have hn : (iv ++ ct ++ icv).length - c.ivLength - icvLength c.toEncryptor a = ct.length := by
      unfold icvLength
      rw [if_neg haead]
      omega
    rw [if_neg haead, if_neg haead, hn, hcts]

/-- the Encrypted payload cut to its header -/
theorem sealedFront_put (h : HeaderFields) (np : UInt8) (n : Nat) :
    put (sealedFront h np n) (headerSize + 2) (enc16 4)
      = h.octets payloadEncrypted (headerSize + payloadHeaderSize + n)
        ++ payloadOctetsOf np [] := by
  have hsplit : sealedFront h np n
      = (h.octets payloadEncrypted (headerSize + payloadHeaderSize + n) ++ [np, 0])
        ++ enc16 (payloadHeaderSize + n) := by
    unfold sealedFront encryptedHeader
    simp only [List.append_assoc]
  have hcut : (h.octets payloadEncrypted (headerSize + payloadHeaderSize + n) ++ [np, 0]).length
      = headerSize + 2 := by
    rw [List.length_append, h.octets_length]
    rfl
  unfold put
  rw [hsplit, List.take_left' hcut, List.drop_eq_nil_of_le, List.append_nil, List.append_assoc]
  · rfl
  · rw [List.length_append, hcut]
    exact Nat.le_refl _

/-- `ikev2_decrypt` on a sealed packet -/
theorem decrypt_sealed {c : Cipher} {a : Authenticator} {peer : Sa} {key iv ct icv plain inner : Bytes}
    (he : peer.encryptor = some c.toEncryptor) (ha : peer.authenticator = some a)
    (hkey : peer.recvEncKey = some key) (hiv : iv.length = c.ivLength)
    (hicv : icv.length = if 0 < c.icvLength then 0 else a.outputLength)
    (hct : 1 + c.icvLength ≤ ct.length)
    (hfits : payloadHeaderSize + (iv ++ ct ++ icv).length < 65536)
    (hopens : (if 0 < c.icvLength
      then c.decryptAead ct key iv (sealedFront h np (iv ++ ct ++ icv).length)
      else c.decrypt ct key iv) = some plain)
    (hstrip : stripPadding plain = some inner) :
    decrypt peer (sealedPacket h np (iv ++ ct ++ icv))
      = some (h.octets payloadEncrypted (headerSize + payloadHeaderSize + inner.length)
        ++ (payloadOctetsOf np [] ++ inner)) := by
  have hlen : (iv ++ ct ++ icv).length = c.ivLength + ct.length + icv.length := by
    rw [List.length_append, List.length_append, hiv]
  have hshort : ¬ (iv ++ ct ++ icv).length < c.ivLength + 1 + icvLength c.toEncryptor a := by
    unfold icvLength
    split
    · omega
    · rename_i haead
      rw [if_neg haead] at hicv
      omega
  have htake : (sealedPacket h np (iv ++ ct ++ icv)).take (headerSize + 4)
      = sealedFront h np (iv ++ ct ++ icv).length := sealedPacket_take h np _
  unfold decrypt
  rw [he, ha, hkey, findEncrypted_sealed]
  simp only [sealedPacket_data h np hfits]
  rw [if_neg hshort, openEncrypted_sealed hiv hicv hfits, hopens]
  simp only [hstrip]
  rw [htake, sealedFront_put, List.append_assoc, h.putLength_octets]
  rfl

/-- `ikev2_check_icv` on a sealed packet -/
theorem checkIcv_sealed {c : Cipher} {a : Authenticator} {peer : Sa}
    {authKey encrypted icv : Bytes} (he : peer.encryptor = some c.toEncryptor)
    (ha : peer.authenticator = some a)
    (hkey : ¬ 0 < c.icvLength → peer.recvAuthKey = some authKey)
    (hicv : icv.length = if 0 < c.icvLength then 0 else a.outputLength)
    (hfits : payloadHeaderSize + (encrypted ++ icv).length < 65536)
    (hmac : ¬ 0 < c.icvLength → ∃ out, icv = out.take a.outputLength
      ∧ a.calculate authKey ((sealedPacket h np (encrypted ++ icv)).take
          (headerSize + payloadHeaderSize + encrypted.length)) = some out) :
    checkIcv peer (sealedPacket h np (encrypted ++ icv)) = true := by
  unfold checkIcv Sa.isAead
  rw [he]
  by_cases haead : 0 < c.icvLength
  · rw [if_pos (decide_eq_true haead)]
  · rw [if_neg (by simpa using haead), ha, hkey haead]
    rw [if_neg haead] at hicv
    obtain ⟨out, hout, hcalc⟩ := hmac haead
    obtain ⟨hfield, -⟩ := payload_read np [] hfits
    have hlen : (encrypted ++ icv).length = encrypted.length + a.outputLength := by
      rw [List.length_append, hicv]
    have hdata : payloadDataLength (payloadOctetsOf np (encrypted ++ icv) ++ [])
        = (encrypted ++ icv).length := by
      unfold payloadDataLength
      rw [hfield, Nat.add_sub_cancel_left]
    have hoff : headerSize + (payloadHeaderSize + (encrypted ++ icv).length) - a.outputLength
        = headerSize + payloadHeaderSize + encrypted.length := by omega
    have hslice : slice (sealedPacket h np (encrypted ++ icv))
        (headerSize + payloadHeaderSize + encrypted.length) a.outputLength = icv := by
      rw [sealedPacket_slice, ← Nat.add_zero encrypted.length, slice_append_right, ← hicv]
      unfold slice
      rw [List.drop_zero, List.take_length]
    show icvMatches a authKey _ = true
    unfold icvMatches
    rw [findEncrypted_sealed]
    simp only [sealedPacket_payload, hdata, hfield, hoff, hcalc, hslice]
    rw [if_neg (by omega), hout]
    exact beq_self_eq_true _

end

section
variable {sa : SendSa} {draws : Draws} {exchType flags : UInt8} {messageId : Nat}
  {ps : List Pushed} {pkt : Bytes} {c : Cipher} {a : Authenticator}

theorem payloadsToBlob_some {blob : Bytes} (h : payloadsToBlob ps = some blob) :
    blob = chainOctets ps ∧ ∀ p ∈ ps, payloadHeaderSize + p.data.length < 65536 := by
  unfold payloadsToBlob at h
  split at h
  · exact absurd h (by simp)
  · rename_i hsmall
    refine ⟨(Option.some.inj h).symm, ?_⟩
    intro p hp
    have hle : ¬ 0xFFFF - payloadHeaderSize < p.data.length := by
      intro hgt
      exact hsmall (List.any_eq_true.mpr ⟨p, hp, decide_eq_true hgt⟩)
    unfold payloadHeaderSize at hle ⊢
    omega

/-- the additional data of a combined-mode cipher is the front of the packet it goes into -/
theorem packetAad_eq {h : HeaderFields} {np : UInt8} {len draw : Nat} {conf : PadConf}
    (haead : 0 < c.icvLength) : packetAad h np c len
      = sealedFront h np (c.ivLength + (sealedLen c conf draw len + c.icvLength)) := by
  have hpad : sealedLen c conf draw len = len + 1 := by
    unfold sealedLen padLen
    rw [if_pos haead, Nat.add_zero]
  unfold packetAad sealedFront
  rw [hpad, Nat.add_assoc c.ivLength]

/-- what `ikev2_packet_construct` returns under a negotiated cipher -/
theorem packetConstruct_some (hc : sa.cipher = some c) (ha : sa.authenticator = some a)
    (h : packetConstruct sa draws exchType flags messageId ps = some pkt) :
    ∃ key authKey encrypted, sa.sendEncKey = some key
      ∧ (¬ 0 < c.icvLength → sa.sendAuthKey = some authKey)
      ∧ (∀ p ∈ ps, payloadHeaderSize + p.data.length < 65536)
      ∧ encrypt c sa.padConf draws key (chainOctets ps)
          (if 0 < c.icvLength then packetAad (sa.header exchType flags messageId) (firstType ps) c
            (chainOctets ps).length else []) = some encrypted
      ∧ pkt = finishPacket (sa.header exchType flags messageId) (firstType ps) c a authKey
          encrypted := by
  unfold packetConstruct at h
  simp only [hc, ha] at h
  split at h
  · exact absurd h (by simp)
  · rename_i blob hblob
    obtain ⟨rfl, hbodies⟩ := payloadsToBlob_some hblob
    split at h
    · rename_i a' key haeq hkey
      obtain rfl := Option.some.inj haeq
      split at h
      · exact absurd h (by simp)
      · rename_i authKey hauth
        obtain ⟨encrypted, henc, rfl⟩ := Option.map_eq_some_iff.mp h
        refine ⟨key, authKey, encrypted, hkey, ?_, hbodies, henc, rfl⟩
        intro haead
        rw [if_neg haead] at hauth
        exact hauth
    · exact absurd h (by simp)

/-- the packet, with its parts and what the cipher says about them -/
theorem packetConstruct_sealed (hideal : c.Ideal) (hmac : a.Ideal) (hc : sa.cipher = some c)
    (ha : sa.authenticator = some a)
    (h : packetConstruct sa draws exchType flags messageId ps = some pkt) :
    ∃ key authKey iv ct icv plain,
      pkt = sealedPacket (sa.header exchType flags messageId) (firstType ps) (iv ++ ct ++ icv)
      ∧ sa.sendEncKey = some key ∧ (¬ 0 < c.icvLength → sa.sendAuthKey = some authKey)
      ∧ (∀ p ∈ ps, payloadHeaderSize + p.data.length < 65536)
      ∧ iv.length = c.ivLength
      ∧ ct.length = sealedLen c sa.padConf draws.uint32 (chainOctets ps).length + c.icvLength
      ∧ icv.length = (if 0 < c.icvLength then 0 else a.outputLength)
      ∧ (if 0 < c.icvLength
          then c.decryptAead ct key iv (sealedFront (sa.header exchType flags messageId)
            (firstType ps) (iv ++ ct ++ icv).length)
          else c.decrypt ct key iv) = some plain
      ∧ stripPadding plain = some (chainOctets ps)
      ∧ (¬ 0 < c.icvLength → ∃ out, icv = out.take a.outputLength
          ∧ a.calculate authKey ((sealedPacket (sa.header exchType flags messageId) (firstType ps)
              (iv ++ ct ++ icv)).take (headerSize + payloadHeaderSize + (iv ++ ct).length))
            = some out) := by
  obtain ⟨key, authKey, encrypted, hkey, hauth, hbodies, henc, rfl⟩ := packetConstruct_some hc ha h
  obtain ⟨iv, ct, plain, rfl, hiv, hct, hopens, hstrip⟩ := encrypt_opens hideal henc
  obtain ⟨icv, hpkt, hicv, hcalc⟩ := @finishPacket_eq c a hmac
    (sa.header exchType flags messageId) (firstType ps) authKey (iv ++ ct)
  refine ⟨key, authKey, iv, ct, icv, plain, hpkt, hkey, hauth, hbodies, hiv, hct, hicv, ?_, hstrip,
    hcalc⟩
  by_cases haead : 0 < c.icvLength
  · rw [if_pos haead, if_pos haead] at hopens
    rw [if_pos haead] at hicv ⊢
    have hlen : (iv ++ ct ++ icv).length
        = c.ivLength + (sealedLen c sa.padConf draws.uint32 (chainOctets ps).length
          + c.icvLength) := by
      rw [List.length_append, List.length_append, hiv, hct, hicv]
      rfl
    rw [hlen, ← packetAad_eq haead]
    exact hopens
  · rw [if_neg haead] at hopens ⊢
    exact hopens

/-- the octets of the Encrypted payload of a constructed packet -/
theorem encryptedPayload_length {data : Bytes}
    (hpkt : pkt = sealedPacket (sa.header exchType flags messageId) (firstType ps) data) :
    (firstPayload pkt).length = payloadHeaderSize + data.length := by
  have hfirst := sealedPacket_payload (sa.header exchType flags messageId) (firstType ps) data
  rw [hpkt]
  unfold firstPayload
  rw [hfirst, List.append_nil]
  unfold payloadOctetsOf
  rw [List.length_append]
  rfl

theorem construct_length (hideal : c.Ideal) (hmac : a.Ideal) (hc : sa.cipher = some c)
    (ha : sa.authenticator = some a)
    (h : packetConstruct sa draws exchType flags messageId ps = some pkt) :
    (firstPayload pkt).length
      = encryptedPayloadLen c a sa.padConf draws.uint32 (chainOctets ps).length := by
  obtain ⟨key, authKey, iv, ct, icv, plain, hpkt, -, -, -, hiv, hct, hicv, -⟩ :=
    packetConstruct_sealed hideal hmac hc ha h
  rw [encryptedPayload_length hpkt, List.length_append, List.length_append, hiv, hct, hicv]
  unfold encryptedPayloadLen icvLength
  split <;> omega

/-- the peer decrypts a constructed packet whose Encrypted payload fits -/
theorem decrypt_constructed {peer : Sa} (hideal : c.Ideal) (hmac : a.Ideal) (hc : sa.cipher = some c)
    (ha : sa.authenticator = some a) (hpeer : PeerOf sa.toSa peer)
    (h : packetConstruct sa draws exchType flags messageId ps = some pkt)
    (hfits : encryptedPayloadLen c a sa.padConf draws.uint32 (chainOctets ps).length ≤ 65535) :
    decrypt peer pkt = some ((sa.header exchType flags messageId).octets payloadEncrypted
        (headerSize + payloadHeaderSize + (chainOctets ps).length)
      ++ (payloadOctetsOf (firstType ps) [] ++ chainOctets ps)) := by
  have hlength := construct_length hideal hmac hc ha h
  obtain ⟨key, authKey, iv, ct, icv, plain, hpkt, hkey, -, -, hiv, hct, hicv, hopens, hstrip, -⟩ :=
    packetConstruct_sealed hideal hmac hc ha h
  rw [encryptedPayload_length hpkt] at hlength
  have he : peer.encryptor = some c.toEncryptor := by
    rw [hpeer.encryptor, sa.same_cipher, hc]
    rfl
  rw [hpkt]
  exact decrypt_sealed he (hpeer.authenticator.trans ha) (hpeer.recvEncKey.trans hkey) hiv hicv
    (by rw [hct]; unfold sealedLen; omega) (by omega) hopens hstrip

/-- a packet whose Encrypted payload does not fit is not read -/
theorem not_readable (hideal : c.Ideal) (hmac : a.Ideal) (hc : sa.cipher = some c)
    (ha : sa.authenticator = some a)
    (h : packetConstruct sa draws exchType flags messageId ps = some pkt)
    (hlarge : 65535 < encryptedPayloadLen c a sa.padConf draws.uint32 (chainOctets ps).length) :
    payloadLength (firstPayload pkt) ≠ (firstPayload pkt).length := by
  have hlt : payloadLength (firstPayload pkt) < 65536 := be16_lt _ _
  rw [construct_length hideal hmac hc ha h]
  omega

/-- A packet that `ikev2_packet_construct` returns passes the peer's checks and decrypts to the
pushed payloads exactly when the length of its Encrypted payload fits into 16 bits. -/
theorem packet_readable_iff {peer : Sa} (hideal : c.Ideal) (hmac : a.Ideal)
    (hc : sa.cipher = some c) (ha : sa.authenticator = some a) (hpeer : PeerOf sa.toSa peer)
    (h : packetConstruct sa draws exchType flags messageId ps = some pkt) :
    ReadBack peer pkt ps
      ↔ encryptedPayloadLen c a sa.padConf draws.uint32 (chainOctets ps).length ≤ 65535 := by
  constructor
  · intro hread
    by_contra hlarge
    exact not_readable hideal hmac hc ha h (by omega) hread.payload
  · intro hfits
    have hlength := construct_length hideal hmac hc ha h
    obtain ⟨key, authKey, iv, ct, icv, plain, hpkt, hkey, hauth, hbodies, hiv, hct, hicv, hopens,
      hstrip, hcalc⟩ := packetConstruct_sealed hideal hmac hc ha h
    rw [encryptedPayload_length hpkt] at hlength
    have hfits' : payloadHeaderSize + (iv ++ ct ++ icv).length < 65536 := by omega
    have he : peer.encryptor = some c.toEncryptor := by
      rw [hpeer.encryptor, sa.same_cipher, hc]
      rfl
    have hplain := decrypt_constructed hideal hmac hc ha hpeer h hfits
    have hchecked := @checkPayloads_sealed (sa.header exchType flags messageId) (firstType ps) _
      hfits'
    rw [← hpkt] at hchecked
    refine ⟨hchecked, ?_, ⟨_, hplain, ?_, walk_decrypted _ _ ps hbodies⟩, ?_, ?_⟩
    · rw [hpkt]
      exact checkIcv_sealed he (hpeer.authenticator.trans ha)
        (fun haead => hpeer.recvAuthKey.trans (hauth haead)) hicv hfits' hcalc
    · have hinner : (chainOctets ps).length < 65536 := by
        unfold encryptedPayloadLen sealedLen at hfits
        omega
      rw [HeaderFields.headerLength_octets _ _ _
        (by unfold headerSize payloadHeaderSize; omega), List.length_append,
        HeaderFields.octets_length, List.length_append, Nat.add_assoc]
      rfl
    · exact (checkPayloads_loop hchecked).2.1
    · obtain ⟨hfield, -, -, -, -, hsize⟩ := payload_read (firstType ps) [] hfits'
      rw [hpkt]
      unfold firstPayload
      rw [sealedPacket_payload, hfield, hsize]
      rfl

end

/-! ## a small and a large message -/

/-- a cipher with an IV of 8 octets and a tag of 16, in the shape of AES-GCM -/
def tagCipher : Cipher where
  ivLength := 8
  icvLength := 16
  decrypt := fun data _ _ => some data
  decryptAead := fun data _ _ _ => some (data.take (data.length - 16))
  blockLength := 1
  blockLength_pos := by decide
  blockLength_le := by decide
  encrypt := fun data _ _ => some data
  encryptAead := fun data _ _ _ => some (data ++ List.replicate 16 0)

theorem tagCipher_ideal : tagCipher.Ideal where
  length := by
    rintro data key iv ct - - ⟨⟩
    rfl
  opens := by
    rintro data key iv ct - - ⟨⟩
    rfl
  aead_length := by
    rintro data key iv aad ct - ⟨⟩
    rw [List.length_append]
    rfl
  aead_opens := by
    rintro data key iv aad ct - ⟨⟩
    show some ((data ++ List.replicate 16 0).take ((data ++ List.replicate 16 0).length - 16))
      = some data
    rw [List.length_append, List.length_replicate, Nat.add_sub_cancel, List.take_left']
    rfl

def noMac : Authenticator := ⟨0, fun _ _ => some []⟩

theorem noMac_ideal : noMac.Ideal := fun key data => ⟨[], rfl, Nat.le_refl _⟩

def tagSa (isInitiator : Bool) : Sa :=
  { Sa.allocate isInitiator [1, 2, 3, 4, 5, 6, 7, 8] [8, 7, 6, 5, 4, 3, 2, 1]
      (.v4 192 0 2 1 500) (.v4 192 0 2 2 500) with
    encryptor := some tagCipher.toEncryptor
    authenticator := some noMac
    skEI := some [1]
    skER := some [2]
    fragSupported := true }

def tagSend : SendSa where
  toSa := tagSa true
  cipher := some tagCipher
  padConf := ⟨false, false, 0⟩
  same_cipher := rfl
  spiI_length := rfl
  spiR_length := rfl

def zeroDraws : Draws where
  uint32 := 0
  ivBytes := fun n => some (List.replicate n 0)
  padBytes := fun n => some (List.replicate n 0)
  iv_length := by
    rintro n b ⟨⟩
    exact List.length_replicate
  pad_length := by
    rintro n b ⟨⟩
    exact List.length_replicate

theorem tagSa_peer : PeerOf tagSend.toSa (tagSa false) := ⟨rfl, rfl, rfl, rfl, rfl, rfl, rfl⟩

/-- an INFORMATIONAL request with one Notify payload -/
def notifyPushed : List Pushed := [⟨payloadNotify, [0, 0, 0, 1], by decide⟩]

theorem packet_readable_notify :
    ∃ pkt, packetConstruct tagSend zeroDraws exchInformational flagInitiator 3 notifyPushed = some pkt
      ∧ ReadBack (tagSa false) pkt notifyPushed := by
  have hpkt : packetConstruct tagSend zeroDraws exchInformational flagInitiator 3 notifyPushed
      = some _ := rfl
  exact ⟨_, hpkt, (packet_readable_iff tagCipher_ideal noMac_ideal rfl rfl tagSa_peer hpkt).mpr
    (by decide)⟩

/-- nothing fails with these draws -/
theorem tagSend_constructs {ps : List Pushed} {blob : Bytes} (h : payloadsToBlob ps = some blob)
    (exchType flags : UInt8) (mid : Nat) :
    ∃ pkt, packetConstruct tagSend zeroDraws exchType flags mid ps = some pkt := by
  unfold packetConstruct
  simp only [h]
  exact ⟨_, rfl⟩

/-- two certificates of 40000 octets -/
def certsPushed : List Pushed :=
  [⟨payloadCert, List.replicate 40000 0, by decide⟩, ⟨payloadCert, List.replicate 40000 0, by decide⟩]

theorem certsPushed_blob : payloadsToBlob certsPushed = some (chainOctets certsPushed) := by
  unfold payloadsToBlob
  rw [if_neg]
  simp only [certsPushed, List.any_cons, List.any_nil, List.length_replicate]
  decide

theorem certsPushed_length : (chainOctets certsPushed).length = 80008 := by
  have hone : ∀ next, (payloadOctetsOf next (List.replicate 40000 0)).length = 40004 := by
    intro next
    have hheader : ∀ n, ([next, 0] ++ enc16 n).length = 4 := fun _ => rfl
    unfold payloadOctetsOf
    rw [List.length_append, List.length_replicate, hheader]
  show (payloadOctetsOf _ (List.replicate 40000 0)
    ++ (payloadOctetsOf _ (List.replicate 40000 0) ++ [])).length = 80008
  rw [List.length_append, List.length_append, hone, hone, List.length_nil]

/-- the packet is sent, and the length of its Encrypted payload is not the one that is written -/
theorem large_packet_unread :
    ∃ pkt, packetConstruct tagSend zeroDraws exchIkeAuth flagInitiator 1 certsPushed = some pkt
      ∧ payloadLength (firstPayload pkt) ≠ (firstPayload pkt).length
      ∧ ¬ ReadBack (tagSa false) pkt certsPushed := by
  obtain ⟨pkt, hpkt⟩ := tagSend_constructs certsPushed_blob exchIkeAuth flagInitiator 1
  have hne := not_readable tagCipher_ideal noMac_ideal rfl rfl hpkt
    (by rw [certsPushed_length]; decide)
  exact ⟨pkt, hpkt, hne, fun hread => hne hread.payload⟩

end Ikev2
