import Racoon2.Iked.Sa

/-!
# Integrity check, decryption and reassembly

`ikev2_check_icv`, `ikev2_check_icv_prev_gen`, `ikev2_decrypt` and `ikev2_frag_recv`.  With a
combined-mode cipher the integrity check of an Encrypted payload is the tag that `decrypt`
verifies, and `checkIcv` accepts everything; with a separate MAC it is `checkIcv` that decides.
An SKF fragment is checked by `fragOpen` before it may touch the queue.

`authentic sa packet` says that the integrity check of the packet verifies under the receive
keys the SA holds (those of the previous IKE_INTERMEDIATE generation included).
-/

set_option linter.unusedVariables false

namespace Ikev2
open Bytes

/-! ## Encrypted payloads -/

/-- the offset of the first Encrypted payload -/
def encryptedOffset (packet : Bytes) : Nat → UInt8 → Nat → Option Nat
  | 0, _, _ => none
  | n+1, type, off =>
    if type = noNextPayload then none
    else if type = payloadEncrypted then some off
    else encryptedOffset packet n (byteAt packet off) (off + be16 packet (off + 2))

def findEncrypted (packet : Bytes) : Option Nat :=
  encryptedOffset packet (packet.length + 1) (nextPayload packet) headerSize

/-- the comparison of `ikev2_check_icv`, with the MAC key given -/
def icvMatches (a : Authenticator) (key packet : Bytes) : Bool :=
  match findEncrypted packet with
  | none => false
  | some off =>
    let p := packet.drop off
    if payloadDataLength p < a.outputLength then false
    else
      let icv := off + payloadLength p - a.outputLength
      match a.calculate key (packet.take icv) with
      | none => false
      | some out => slice packet icv a.outputLength == out.take a.outputLength

def checkIcv (sa : Sa) (packet : Bytes) : Bool :=
  if sa.isAead then true
  else match sa.authenticator, sa.recvAuthKey with
    | some a, some key => icvMatches a key packet
    | _, _ => false

/-- the keys of the responder's direction are swapped for the check only -/
def checkIcvPrevGen (sa : Sa) (packet : Bytes) : Bool :=
  match sa.prevSkAR, sa.prevSkER with
  | some ka, some ke => checkIcv { sa with skAR := some ka, skER := some ke } packet
  | _, _ => false

def icvLength (e : Encryptor) (a : Authenticator) : Nat :=
  if 0 < e.icvLength then e.icvLength else a.outputLength

/-- the plaintext of an Encrypted payload at `off`, padding included -/
def openEncrypted (e : Encryptor) (key packet : Bytes) (off icvLen : Nat) : Option Bytes :=
  let p := packet.drop off
  let iv := slice packet (off + 4) e.ivLength
  if 0 < e.icvLength then
    e.decryptAead (slice packet (off + 4 + e.ivLength) (payloadDataLength p - e.ivLength)) key iv
      (packet.take (off + 4))
  else
    e.decrypt (slice packet (off + 4 + e.ivLength) (payloadDataLength p - e.ivLength - icvLen))
      key iv

/-- cut the padding and the Pad Length octet -/
def stripPadding (plain : Bytes) : Option Bytes :=
  match plain.getLast? with
  | none => none
  | some pad =>
    if plain.length < pad.toNat + 1 then none else some (plain.take (plain.length - pad.toNat - 1))

def putLength (packet : Bytes) (len : Nat) : Bytes := put packet 24 (enc32 len)

/-- `ikev2_decrypt`: the packet with the Encrypted payload cut to its header and the inner
payloads behind it -/
def decrypt (sa : Sa) (packet : Bytes) : Option Bytes :=
  match sa.encryptor, sa.authenticator, sa.recvEncKey, findEncrypted packet with
  | some e, some a, some key, some off =>
    if payloadDataLength (packet.drop off) < e.ivLength + 1 + icvLength e a then none
    else match openEncrypted e key packet off (icvLength e a) with
      | none => none
      | some plain =>
        match stripPadding plain with
        | none => none
        | some inner =>
          some (putLength (put (packet.take (off + 4)) (off + 2) (enc16 4) ++ inner)
            (off + 4 + inner.length))
  | _, _, _, _ => none

/-! ## fragments -/

def fragTimeout : Nat := 60
def maxFrags : Nat := 64
def maxAssemblies : Nat := 4
def maxReasm : Nat := 65535

def skfNumber (packet : Bytes) : Nat := be16 packet 32
def skfTotal (packet : Bytes) : Nat := be16 packet 34

def fragExpire (now : Nat) (chain : List FragItem) : List FragItem :=
  chain.filter fun item => !(decide (item.timeout ≠ 0) && decide (item.timeout < now))

def findAssembly (chain : List FragItem) (msgid : Nat) : Option FragItem :=
  chain.find? fun item => item.msgid == msgid

/-- the tests of a fragment that need no key -/
def fragWellFormed (e : Encryptor) (a : Authenticator) (packet : Bytes) : Bool :=
  decide (1 ≤ skfNumber packet) && decide (1 ≤ skfTotal packet)
    && decide (skfNumber packet ≤ skfTotal packet) && decide (skfTotal packet ≤ maxFrags)
    && decide (8 + e.ivLength + icvLength e a + 1 ≤ be16 packet 30)
    && decide (be16 packet 30 = packet.length - headerSize)

def fragExpected (chain : List FragItem) (packet : Bytes) : Bool :=
  match findAssembly chain (messageId packet) with
  | none => true
  | some item =>
    decide (item.totalFragments ≤ skfTotal packet)
      && !(decide (skfTotal packet = item.totalFragments)
        && (item.parts (skfNumber packet)).isSome)

/-- ICV or tag check of a fragment, and its plaintext without padding -/
def fragOpen (e : Encryptor) (a : Authenticator) (authKey : Option Bytes) (encKey packet : Bytes) :
    Option Bytes :=
  let iv := slice packet 36 e.ivLength
  let plain :=
    if 0 < e.icvLength then
      e.decryptAead (slice packet (36 + e.ivLength) (be16 packet 30 - 8 - e.ivLength)) encKey iv
        (packet.take 36)
    else
      let icv := packet.length - a.outputLength
      match authKey.bind fun key => a.calculate key (packet.take icv) with
      | none => none
      | some out =>
        if packet.drop icv = out.take a.outputLength then
          e.decrypt (slice packet (36 + e.ivLength)
            (be16 packet 30 - 8 - e.ivLength - a.outputLength)) encKey iv
        else none
  plain.bind stripPadding

def FragItem.fresh (msgid total now : Nat) : FragItem :=
  ⟨msgid, total, 0, 0, now + fragTimeout, 0, fun _ => none⟩

/-- a larger Total Fragments restarts an assembly; `parts[0]` keeps its octet -/
def FragItem.restart (item : FragItem) (total now : Nat) : FragItem :=
  { item with
    totalFragments := total, numReceived := 0, totalDataLen := 0, timeout := now + fragTimeout
    parts := fun i => if 1 ≤ i ∧ i ≤ item.totalFragments then none else item.parts i }

/-- the chain with a context for the message id, and that context -/
def fragContext (now : Nat) (chain : List FragItem) (msgid total : Nat) :
    List FragItem × FragItem :=
  match findAssembly chain msgid with
  | some item =>
    let item' := if item.totalFragments < total then item.restart total now else item
    (chain, item')
  | none =>
    let item := FragItem.fresh msgid total now
    ((if maxAssemblies ≤ chain.length then chain.drop (chain.length - (maxAssemblies - 1))
      else chain) ++ [item], item)

def replaceAssembly (chain : List FragItem) (item : FragItem) : List FragItem :=
  chain.map fun i => if i.msgid = item.msgid then item else i

def removeAssembly (chain : List FragItem) (msgid : Nat) : List FragItem :=
  chain.filter fun i => i.msgid != msgid

/-- the merged parts `1 .. n`, if all are there -/
def mergeParts (parts : Nat → Option Bytes) : Nat → Option Bytes
  | 0 => some []
  | n+1 =>
    match mergeParts parts n, parts (n+1) with
    | some m, some c => some (m ++ c)
    | _, _ => none

/-- the reassembled packet: the header of the last fragment with `merged` behind it -/
def reassembled (packet : Bytes) (np : UInt8) (merged : Bytes) : Bytes :=
  putLength (put (packet.take headerSize) 16 [np] ++ merged) (headerSize + merged.length)

/-- the chunk of fragment `no`; fragment 1 carries the type of the first inner payload -/
def FragItem.insert (item : FragItem) (no : Nat) (np : UInt8) (data : Bytes) : FragItem :=
  { item with
    nextPayload := if no = 1 then np else item.nextPayload
    parts := fun i => if i = no then some data else item.parts i
    numReceived := item.numReceived + 1
    totalDataLen := item.totalDataLen + data.length }

/-- wait for more, or merge -/
def fragComplete (chain : List FragItem) (packet : Bytes) (item : FragItem) :
    List FragItem × Option Bytes :=
  if item.numReceived < item.totalFragments then (replaceAssembly chain item, none)
  else match mergeParts item.parts item.totalFragments with
    | none => (replaceAssembly chain { item with nextPayload := 0 }, none)
    | some merged =>
      (removeAssembly chain item.msgid, some (reassembled packet item.nextPayload merged))

/-- an authentic fragment enters the queue -/
def fragStore (now : Nat) (chain : List FragItem) (packet data : Bytes) :
    List FragItem × Option Bytes :=
  let (chain, item) := fragContext now chain (messageId packet) (skfTotal packet)
  if maxReasm < item.totalDataLen + data.length then
    (if item.numReceived = 0 then removeAssembly chain item.msgid
      else replaceAssembly chain item, none)
  else fragComplete chain packet (item.insert (skfNumber packet) (byteAt packet 28) data)

/-- `ikev2_frag_recv`: the queue after the fragment, and the packet if it is complete -/
def fragRecv (now : Nat) (sa : Sa) (packet : Bytes) : List FragItem × Option Bytes :=
  let chain := fragExpire now sa.fragChain
  if packet.length < headerSize + 8 then (chain, none)
  else match sa.encryptor, sa.authenticator, sa.recvEncKey with
    | some e, some a, some key =>
      if !sa.hasRecvKeys || !fragWellFormed e a packet || !sa.fragSupported
          || !fragExpected chain packet then (chain, none)
      else match fragOpen e a sa.recvAuthKey key packet with
        | none => (chain, none)
        | some data => fragStore now chain packet data
    | _, _, _ => (chain, none)

/-! ## authenticity -/

/-- the tag of a combined-mode cipher, or the MAC, of an Encrypted payload verifies -/
def sealVerifies (sa : Sa) (packet : Bytes) : Bool :=
  if sa.isAead then
    match sa.encryptor, sa.authenticator, sa.recvEncKey, findEncrypted packet with
    | some e, some a, some key, some off =>
      (openEncrypted e key packet off (icvLength e a)).isSome
    | _, _, _, _ => false
  else checkIcv sa packet || checkIcvPrevGen sa packet

/-- the ICV or tag of an SKF fragment verifies -/
def skfVerifies (sa : Sa) (packet : Bytes) : Bool :=
  match sa.encryptor, sa.authenticator, sa.recvEncKey with
  | some e, some a, some key => (fragOpen e a sa.recvAuthKey key packet).isSome
  | _, _, _ => false

def authentic (sa : Sa) (packet : Bytes) : Bool :=
  if nextPayload packet = payloadSkf then skfVerifies sa packet else sealVerifies sa packet

end Ikev2
