import Racoon2.Iked.FragRoundTrip

/-!
# What the IKE_INTERMEDIATE messages are authenticated with

The content of an IKE_INTERMEDIATE message that goes into the IntAuth PRF: a sender takes it while it
builds the packet (`intermediate_content_a` and `ikev2_payloads_to_blob`), a receiver makes it again of
the message that was decrypted or put together from fragments (`intermediate_packet_inner_blob`).

* `packetInnerBlob_chain`      the inner payloads, without Encrypted payloads in front;
* `SentParts.receiveAll`       whatever a receiver puts together of the fragments is the message;
* `intauth_agree_iff`          when both sides have the same content.
-/

set_option linter.unusedVariables false

namespace Ikev2
open Bytes

/-! ## the content -/

/-- `intermediate_content_a`: the IKE header, and the generic header of the Encrypted payload, both
with adjusted lengths -/
def contentA (header : Bytes) (innerLen : Nat) (firstInnerType : UInt8) : Bytes :=
  put (put (header.take headerSize) 16 [payloadEncrypted]) 24
      (enc32 (headerSize + (payloadHeaderSize + innerLen)))
    ++ ([firstInnerType, 0] ++ enc16 (payloadHeaderSize + innerLen))

/-- what the sender of `pkt` holds; no blob counts as an empty one -/
def sentContent (pkt : Bytes) (ps : List Pushed) (firstInnerType : UInt8) : Bytes :=
  contentA pkt ((payloadsToBlob ps).elim 0 List.length) firstInnerType ++ (payloadsToBlob ps).getD []

/-- the loops of `intermediate_packet_inner_blob`: the payloads with their types, without Encrypted
ones in front -/
def innerLoop : Nat → Bool → UInt8 → Bytes → Option (List (UInt8 × Bytes))
  | 0, _, _, _ => none
  | n+1, started, type, p =>
    if type = noNextPayload then some []
    else if p.length < payloadHeaderSize then none
    else if payloadLength p < payloadHeaderSize ∨ p.length < payloadLength p then none
    else if !started && type == payloadEncrypted then
      innerLoop n false (payloadNext p) (pointNext p)
    else (innerLoop n true (payloadNext p) (pointNext p)).map ((type, payloadOctets p) :: ·)

/-- the type in front -/
def leadType : List (UInt8 × Bytes) → UInt8
  | [] => noNextPayload
  | (type, _) :: _ => type

/-- the copies, each with the type of the next one written into it -/
def rechain : List (UInt8 × Bytes) → Bytes
  | [] => []
  | (_, octets) :: rest => put octets 0 [leadType rest] ++ rechain rest

/-- `intermediate_packet_inner_blob` -/
def packetInnerBlob (packet : Bytes) : Option Bytes :=
  if packet.length < headerSize then none
  else
    match innerLoop (packet.length + 1) false (nextPayload packet) (firstPayload packet) with
    | none => none
    | some [] => none
    | some (c :: cs) => some (rechain (c :: cs))

/-- the loop of `intermediate_find_ke` -/
def findKe : Nat → UInt8 → Bytes → Option Bytes
  | 0, _, _ => none
  | n+1, type, p =>
    if type = noNextPayload then none
    else if p.length < payloadHeaderSize then none
    else if payloadLength p < payloadHeaderSize ∨ p.length < payloadLength p then none
    else if type = payloadKe then some (payloadOctets p)
    else findKe n (payloadNext p) (pointNext p)

/-- `intermediate_ke_body` -/
def keBody (ke : Bytes) : Option Bytes :=
  if ke.length ≤ payloadHeaderSize + 4 then none else some (ke.drop (payloadHeaderSize + 4))

/-- what the two handlers hold of a message: its KE payload is of the method of the round -/
def receivedContent (method : Nat) (packet : Bytes) : Option Bytes :=
  match findKe (packet.length + 1) (nextPayload packet) (firstPayload packet) with
  | none => none
  | some ke =>
    if be16 ke 4 ≠ method ∨ keBody ke = none then none
    else (packetInnerBlob packet).map fun blob => contentA packet blob.length payloadKe ++ blob

/-! ## chains of payloads -/

def Pushed.isEncrypted (p : Pushed) : Bool := p.type == payloadEncrypted

/-- the payloads as they are in a chain -/
def chainPieces : List Pushed → List (UInt8 × Bytes)
  | [] => []
  | p :: ps => (p.type, payloadOctetsOf (firstType ps) p.data) :: chainPieces ps

theorem leadType_pieces (ps : List Pushed) : leadType (chainPieces ps) = firstType ps := by
  cases ps <;> rfl

theorem rechain_pieces (ps : List Pushed) : rechain (chainPieces ps) = chainOctets ps := by
  induction ps with
  | nil => rfl
  | cons p ps ih =>
    show put (payloadOctetsOf (firstType ps) p.data) 0 [leadType (chainPieces ps)]
      ++ rechain (chainPieces ps) = _
    rw [ih, leadType_pieces]
    rfl

section
variable {ps : List Pushed} {n : Nat}

/-- one turn of the loop -/
theorem innerLoop_cons {p : Pushed} (ps : List Pushed) (started : Bool)
    (hbody : payloadHeaderSize + p.data.length < 65536) :
    innerLoop (n + 1) started (firstType (p :: ps)) (chainOctets (p :: ps)) =
      if !started && p.isEncrypted then innerLoop n false (firstType ps) (chainOctets ps)
      else (innerLoop n true (firstType ps) (chainOctets ps)).map
        ((p.type, payloadOctetsOf (firstType ps) p.data) :: ·) := by
  obtain ⟨hlen, hnext, hoctets, hpoint, -, hsize⟩ := payload_read (firstType ps) (chainOctets ps) hbody
  show innerLoop (n + 1) started p.type (payloadOctetsOf (firstType ps) p.data ++ chainOctets ps) = _
  rw [innerLoop, if_neg p.some_type, hlen, if_neg (by omega), if_neg (by omega), hoctets, hnext, hpoint]
  rfl

theorem innerLoop_started (ps : List Pushed) : ∀ n,
    (∀ p ∈ ps, payloadHeaderSize + p.data.length < 65536) → ps.length < n →
      innerLoop n true (firstType ps) (chainOctets ps) = some (chainPieces ps) := by
  induction ps with
  | nil =>
    intro n _ hn
    obtain ⟨n, rfl⟩ : ∃ n', n = n' + 1 := ⟨n - 1, by omega⟩
    rfl
  | cons p ps ih =>
    intro n hbodies hn
    obtain ⟨n, rfl⟩ : ∃ n', n = n' + 1 := ⟨n - 1, by omega⟩
    rw [innerLoop_cons ps true (hbodies p List.mem_cons_self),
      ih n (fun q hq => hbodies q (List.mem_cons_of_mem _ hq)) (Nat.lt_of_succ_lt_succ hn)]
    rfl

/-- the loop passes over the Encrypted payloads in front -/
theorem innerLoop_chain (ps : List Pushed) : ∀ n,
    (∀ p ∈ ps, payloadHeaderSize + p.data.length < 65536) → ps.length < n →
      innerLoop n false (firstType ps) (chainOctets ps)
        = some (chainPieces (ps.dropWhile Pushed.isEncrypted)) := by
  induction ps with
  | nil =>
    intro n _ hn
    obtain ⟨n, rfl⟩ : ∃ n', n = n' + 1 := ⟨n - 1, by omega⟩
    rfl
  | cons p ps ih =>
    intro n hbodies hn
    obtain ⟨n, rfl⟩ : ∃ n', n = n' + 1 := ⟨n - 1, by omega⟩
    have hrest : ∀ q ∈ ps, payloadHeaderSize + q.data.length < 65536 :=
      fun q hq => hbodies q (List.mem_cons_of_mem _ hq)
    rw [innerLoop_cons ps false (hbodies p List.mem_cons_self), List.dropWhile_cons]
    cases p.isEncrypted with
    | true => exact ih n hrest (Nat.lt_of_succ_lt_succ hn)
    | false =>
      rw [innerLoop_started ps n hrest (Nat.lt_of_succ_lt_succ hn)]
      rfl

theorem chainOctets_cons_length (p : Pushed) (ps : List Pushed) :
    (chainOctets (p :: ps)).length = 4 + p.data.length + (chainOctets ps).length := by
  show (payloadOctetsOf (firstType ps) p.data ++ chainOctets ps).length = _
  unfold payloadOctetsOf
  rw [List.length_append, List.length_append]
  rfl

/-- a payload has at least the four octets of its header -/
theorem chainOctets_ge (ps : List Pushed) : 4 * ps.length ≤ (chainOctets ps).length := by
  induction ps with
  | nil => exact Nat.le_refl 0
  | cons p ps ih =>
    rw [chainOctets_cons_length, List.length_cons]
    omega

theorem chainOctets_dropWhile_le (ps : List Pushed) :
    (chainOctets (ps.dropWhile Pushed.isEncrypted)).length ≤ (chainOctets ps).length := by
  induction ps with
  | nil => exact Nat.le_refl 0
  | cons p ps ih =>
    rw [List.dropWhile_cons]
    split
    · rw [chainOctets_cons_length]
      omega
    · exact Nat.le_refl _

theorem chainOctets_dropWhile_lt (h : firstType ps = payloadEncrypted) :
    (chainOctets (ps.dropWhile Pushed.isEncrypted)).length < (chainOctets ps).length := by
  cases ps with
  | nil => exact absurd h (by decide)
  | cons p ps =>
    have hle := chainOctets_dropWhile_le ps
    have hp : p.isEncrypted = true := beq_iff_eq.mpr h
    rw [List.dropWhile_cons, if_pos hp, chainOctets_cons_length]
    omega

theorem dropWhile_encrypted (h : firstType ps ≠ payloadEncrypted) :
    ps.dropWhile Pushed.isEncrypted = ps := by
  cases ps with
  | nil => rfl
  | cons p ps =>
    have hp : ¬ p.isEncrypted = true := fun hp => h (eq_of_beq hp)
    rw [List.dropWhile_cons, if_neg hp]

/-- a message in the clear, with or without the header of its Encrypted payload -/
structure InClear (packet : Bytes) (ps : List Pushed) (plain : Bytes) : Prop where
  header : ∀ i, i < 24 → i ≠ 16 → byteAt plain i = byteAt packet i
  length : headerSize ≤ plain.length
  payloads : (nextPayload plain = firstType ps ∧ firstPayload plain = chainOctets ps) ∨
    (nextPayload plain = payloadEncrypted ∧
      firstPayload plain = payloadOctetsOf (firstType ps) [] ++ chainOctets ps)

/-- the inner payloads of a message in the clear, without Encrypted payloads in front -/
theorem packetInnerBlob_chain {packet plain : Bytes} (h : InClear packet ps plain)
    (hbodies : ∀ p ∈ ps, payloadHeaderSize + p.data.length < 65536) {blob : Bytes}
    (hblob : packetInnerBlob plain = some blob) :
    blob = chainOctets (ps.dropWhile Pushed.isEncrypted) := by
  have h4 : payloadHeaderSize = 4 := rfl
  have hge := chainOctets_ge ps
  have hfirst : (firstPayload plain).length ≤ plain.length := by
    unfold firstPayload
    rw [List.length_drop]
    exact Nat.sub_le _ _
  have hloop : innerLoop (plain.length + 1) false (nextPayload plain) (firstPayload plain)
      = some (chainPieces (ps.dropWhile Pushed.isEncrypted)) := by
    rcases h.payloads with ⟨htype, hpayloads⟩ | ⟨htype, hpayloads⟩
    · rw [hpayloads] at hfirst
      rw [htype, hpayloads]
      exact innerLoop_chain ps _ hbodies (by omega)
    · obtain ⟨hlen, hnext, -, hpoint, -, hsize⟩ := @payload_read [] (firstType ps) (chainOctets ps)
        (by decide)
      rw [hpayloads, hsize] at hfirst
      rw [htype, hpayloads, innerLoop, if_neg (by decide), hlen, if_neg (by rw [hsize]; omega),
        if_neg (by rw [hsize]; omega), if_pos (by decide), hnext, hpoint]
      exact innerLoop_chain ps _ hbodies (by omega)
  unfold packetInnerBlob at hblob
  rw [if_neg (Nat.not_lt.mpr h.length), hloop] at hblob
  cases hinner : ps.dropWhile Pushed.isEncrypted with
  | nil =>
    rw [hinner] at hblob
    cases hblob
  | cons p rest =>
    rw [hinner] at hblob
    rw [← Option.some.inj hblob]
    exact rechain_pieces (p :: rest)

end

/-! ## fragments -/

/-- the assembly holds chunks of one message only -/
structure PartOf (n : Nat) (np : UInt8) (chunk : Nat → Bytes) (item : FragItem) : Prop where
  total : item.totalFragments = n
  parts : ∀ i x, item.parts i = some x → x = chunk i
  first : (item.parts 1).isSome = true → item.nextPayload = np

/-- the assemblies of message `m` hold chunks of it -/
structure SentParts (m n : Nat) (np : UInt8) (chunk : Nat → Bytes) (chain : List FragItem) : Prop where
  consistent : ChainInv chain
  own : ∀ item ∈ chain, item.msgid = m → PartOf n np chunk item

section
variable {m n no now : Nat} {np np' : UInt8} {chunk : Nat → Bytes} {chain : List FragItem}
  {item : FragItem} {peer : Sa} {packet f inner : Bytes} {frags : List Bytes}

theorem SentParts.expire (h : SentParts m n np chunk chain) (now : Nat) :
    SentParts m n np chunk (fragExpire now chain) :=
  ⟨h.consistent.expire now, fun item hitem => h.own item (List.mem_of_mem_filter hitem)⟩

theorem PartOf.insert (h : PartOf n np chunk item) (no : Nat) (np' : UInt8) (hnp : no = 1 → np' = np) :
    PartOf n np chunk (item.insert no np' (chunk no)) where
  total := h.total
  parts := by
    intro i x hx
    have hpart : (item.insert no np' (chunk no)).parts i =
        if i = no then some (chunk no) else item.parts i := rfl
    rw [hpart] at hx
    split at hx
    · next heq => rw [heq, ← Option.some.inj hx]
    · exact h.parts i x hx
  first := by
    intro hone
    show (if no = 1 then np' else item.nextPayload) = np
    split
    · next heq => exact hnp heq
    · next hne =>
      have hpart : (item.insert no np' (chunk no)).parts 1 = item.parts 1 := if_neg (Ne.symm hne)
      rw [hpart] at hone
      exact h.first hone

/-- the assembly that a fragment of the message goes to -/
theorem SentParts.context (h : SentParts m n np chunk chain) (now : Nat) :
    PartOf n np chunk (fragContext now chain m n).2 := by
  cases hfind : findAssembly chain m with
  | none =>
    rw [fragContext_none hfind]
    refine ⟨rfl, fun i x hx => ?_, fun hone => ?_⟩
    · cases hx
    · cases hone
  | some item =>
    obtain ⟨hmem, hid⟩ := Keyed.mem_of_find hfind
    have hpart := h.own item hmem hid
    rw [fragContext_same hfind hpart.total]
    exact hpart

/-- all parts of the assembly are there: they are the message -/
theorem PartOf.merged (hfr : Fragmented peer packet np inner n chunk frags)
    (h : PartOf n np chunk item) (hread : ReadFragment peer packet np' no n (chunk no) f) {merged : Bytes}
    (hmerge : mergeParts item.parts item.totalFragments = some merged) :
    reassembled f item.nextPayload merged = reassembled packet np inner := by
  rw [h.total] at hmerge
  have hthere := mergeParts_present n hmerge
  have hmerged : merged = inner := by
    refine Option.some.inj (hmerge.symm.trans (Eq.trans ?_ hfr.joins))
    refine mergeParts_congr n fun i hpos hle => ?_
    obtain ⟨x, hx⟩ := hthere i hpos hle
    rw [hx, h.parts i x hx]
  obtain ⟨x, hx⟩ := hthere 1 (Nat.le_refl 1) hfr.least
  rw [hmerged, h.first (by rw [hx]; rfl)]
  exact reassembled_congr (fragAccepts_length hread.accepted) hfr.hasHeader hread.header np inner

theorem PartOf.replaced (h : PartOf n np chunk item) (hid : item.msgid = m) (chain : List FragItem) :
    ∀ x ∈ replaceAssembly chain item, x.msgid = m → PartOf n np chunk x := by
  intro x hx heq
  rcases Keyed.mem_replace hx with rfl | ⟨-, hne⟩
  · exact h
  · exact absurd (heq.trans hid.symm) hne

theorem partOf_removed (chain : List FragItem) :
    ∀ x ∈ removeAssembly chain m, x.msgid = m → PartOf n np chunk x :=
  fun x hx heq => absurd heq (Keyed.mem_remove hx).2

/-- the assembly waits, or is returned as the message -/
theorem PartOf.complete (hfr : Fragmented peer packet np inner n chunk frags)
    (h : PartOf n np chunk item) (hacc : item.Accounted) (hid : item.msgid = messageId packet)
    (hread : ReadFragment peer packet np' no n (chunk no) f) :
    (∀ x ∈ (fragComplete chain f item).1, x.msgid = messageId packet → PartOf n np chunk x) ∧
      ∀ pkt, (fragComplete chain f item).2 = some pkt → pkt = reassembled packet np inner := by
  unfold fragComplete
  split
  · exact ⟨h.replaced hid chain, fun pkt hpkt => by cases hpkt⟩
  · next hwait =>
    obtain ⟨merged, hmerge⟩ := hacc.merged hwait
    rw [hmerge, hid]
    refine ⟨partOf_removed chain, fun pkt hpkt => ?_⟩
    rw [← Option.some.inj hpkt]
    exact h.merged hfr hread hmerge

/-- a new fragment of the message -/
theorem SentParts.store (hfr : Fragmented peer packet np inner n chunk frags)
    (h : SentParts (messageId packet) n np chunk chain) (hpos : 1 ≤ no) (hle : no ≤ n)
    (hread : ReadFragment peer packet (if no = 1 then np else 0) no n (chunk no) f)
    (hexp : fragExpected chain f = true) :
    (∀ x ∈ (fragStore now chain f (chunk no)).1, x.msgid = messageId packet → PartOf n np chunk x) ∧
      ∀ pkt, (fragStore now chain f (chunk no)).2 = some pkt → pkt = reassembled packet np inner := by
  have hspec := fragContext_spec now h.consistent hexp (by rw [hread.ofTotal]; exact hfr.most)
  simp only [hread.messageId, hread.ofTotal, hread.number] at hspec
  obtain ⟨-, hid, htot, hacc, hfree⟩ := hspec
  have hpart := h.context now
  unfold fragStore
  rw [hread.messageId, hread.ofTotal, hread.number, hread.firstType]
  dsimp only
  by_cases hlarge : maxReasm < (fragContext now chain (messageId packet) n).2.totalDataLen
      + (chunk no).length
  · rw [if_pos hlarge, hid]
    refine ⟨?_, fun pkt hpkt => by cases hpkt⟩
    dsimp only
    split
    · exact partOf_removed _
    · exact hpart.replaced hid _
  · rw [if_neg hlarge]
    exact (hpart.insert no _ fun hone => if_pos hone).complete hfr
      (hacc.insert hfree hpos (by rw [htot]; exact hle) (Nat.le_of_not_lt hlarge)) hid hread

/-- a fragment of the message -/
theorem SentParts.recv_own (hfr : Fragmented peer packet np inner n chunk frags)
    (h : SentParts (messageId packet) n np chunk chain) (hpos : 1 ≤ no) (hle : no ≤ n)
    (hread : ReadFragment peer packet (if no = 1 then np else 0) no n (chunk no) f) :
    SentParts (messageId packet) n np chunk (fragRecv now { peer with fragChain := chain } f).1 ∧
      ∀ pkt, (fragRecv now { peer with fragChain := chain } f).2 = some pkt →
        pkt = reassembled packet np inner := by
  have hexpire := h.expire now
  have hinv := @fragRecv_inv f now chain peer h.consistent
  have hrecv : fragRecv now { peer with fragChain := chain } f
      = if !fragExpected (fragExpire now chain) f then (fragExpire now chain, none)
        else fragStore now (fragExpire now chain) f (chunk no) := by
    rw [fragRecv_eq, hread.accepted]
  by_cases hexp : fragExpected (fragExpire now chain) f = true
  · rw [hexp] at hrecv
    replace hrecv : fragRecv now { peer with fragChain := chain } f
        = fragStore now (fragExpire now chain) f (chunk no) := hrecv
    obtain ⟨hown, hpkt⟩ := hexpire.store hfr hpos hle hread hexp
    rw [hrecv] at hinv ⊢
    exact ⟨⟨hinv, hown⟩, hpkt⟩
  · rw [Bool.eq_false_of_not_eq_true hexp] at hrecv
    replace hrecv : fragRecv now { peer with fragChain := chain } f = (fragExpire now chain, none) :=
      hrecv
    rw [hrecv]
    exact ⟨hexpire, fun pkt hpkt => by cases hpkt⟩

/-- a fragment of another message, or one that is not accepted -/
theorem SentParts.recv_other (h : SentParts m n np chunk chain)
    (hother : messageId f ≠ m ∨ fragAccepts peer f = none) :
    SentParts m n np chunk (fragRecv now { peer with fragChain := chain } f).1 ∧
      ∀ pkt, (fragRecv now { peer with fragChain := chain } f).2 = some pkt → messageId pkt ≠ m := by
  have hexpire := h.expire now
  have hinv := @fragRecv_inv f now chain peer h.consistent
  rw [← fragRecvAlloc_never h.consistent] at hinv ⊢
  rcases @recv_cases .never now peer chain f h.consistent AllocFail.noConfusion with
    ⟨-, hdrop⟩ | ⟨data, haccept, hexp, hout⟩
  · rw [hdrop]
    exact ⟨hexpire, fun pkt hpkt => by cases hpkt⟩
  · have hne : messageId f ≠ m := by
      refine hother.resolve_right ?_
      rw [haccept]
      exact Option.some_ne_none data
    refine ⟨⟨hinv, fun item hitem hid => ?_⟩, fun pkt hpkt => ?_⟩
    · rcases hout.items hexpire.consistent hexp haccept item hitem with ⟨hin, -⟩ | ⟨heq, -⟩
      · exact hexpire.own item hin hid
      · exact absurd (heq.symm.trans hid) hne
    · obtain ⟨np', merged, -, rfl⟩ := hout.packet hpkt
      rw [(reassembled_sameHeader (fragAccepts_length haccept) np' merged).2.2]
      exact hne

/-- whatever a receiver puts together under the message id is the message, in every run -/
theorem SentParts.receiveAll (hfr : Fragmented peer packet np inner n chunk frags) {ds : List Arrival}
    (hds : ∀ d ∈ ds, d.packet ∈ frags ∨ messageId d.packet ≠ messageId packet
      ∨ fragAccepts peer d.packet = none)
    (h : SentParts (messageId packet) n np chunk chain) {plain : Bytes}
    (hplain : some plain ∈ Ikev2.receiveAll peer chain ds) (hid : messageId plain = messageId packet) :
    plain = reassembled packet np inner := by
  induction ds generalizing chain with
  | nil => exact absurd hplain List.not_mem_nil
  | cons d ds ih =>
    have hrest : ∀ d' ∈ ds, d'.packet ∈ frags ∨ messageId d'.packet ≠ messageId packet
        ∨ fragAccepts peer d'.packet = none := fun d' hd' => hds d' (List.mem_cons_of_mem _ hd')
    rcases hds d List.mem_cons_self with hown | hother
    · obtain ⟨no, hpos, hle, hread⟩ := hfr.read d.packet hown
      obtain ⟨hsent, hpkt⟩ := @SentParts.recv_own n no d.now np chunk chain peer packet d.packet inner frags
        hfr h hpos hle hread
      rcases List.mem_cons.mp hplain with heq | hin
      · exact hpkt plain heq.symm
      · exact ih hrest hsent hin
    · obtain ⟨hsent, hpkt⟩ := @SentParts.recv_other _ n d.now np chunk chain peer d.packet h hother
      rcases List.mem_cons.mp hplain with heq | hin
      · exact absurd hid (hpkt plain heq.symm)
      · exact ih hrest hsent hin

end

/-! ## both sides -/

/-- the message that the handler gets: it was decrypted, or put together from fragments in some run of
the receiver; under its message id only its own fragments verify -/
inductive Delivered (sa : SendSa) (peer : Sa) (pkt : Bytes) : Bytes → Prop where
  | whole (plain : Bytes) : checkPayloads pkt true = true → classifyDecrypt peer pkt = .dispatch plain →
    Delivered sa peer pkt plain
  | fragments (draws : Nat → Draws) (socket : Bool) (frags : List Bytes) (chain : List FragItem)
    (ds : List Arrival) (plain : Bytes) : fragSend sa draws socket pkt = some frags →
    peer.fragSupported = true → ChainInv chain → (∀ item ∈ chain, item.msgid ≠ messageId pkt) →
    (∀ d ∈ ds, d.packet ∈ frags ∨ messageId d.packet ≠ messageId pkt
      ∨ fragAccepts peer d.packet = none) →
    some plain ∈ receiveAll peer chain ds → messageId plain = messageId pkt →
    Delivered sa peer pkt plain

section
variable {p q : Bytes}

/-- the header with its adjusted fields has its length -/
theorem adjusted_length (hp : headerSize ≤ p.length) (n : Nat) :
    (put (put (p.take headerSize) 16 [payloadEncrypted]) 24 (enc32 n)).length = headerSize := by
  have hput := headerPut_length hp payloadEncrypted
  rw [put_length _ _ _ (by rw [hput, enc32_length]), hput]
  rfl

theorem contentA_length (hp : headerSize ≤ p.length) (n : Nat) (first : UInt8) :
    (contentA p n first).length = headerSize + payloadHeaderSize := by
  unfold contentA
  rw [List.length_append, adjusted_length hp]
  rfl

theorem byteAt_contentA (hp : headerSize ≤ p.length) (n : Nat) (first : UInt8) :
    byteAt (contentA p n first) headerSize = first := by
  have h := byteAt_append_right (put (put (p.take headerSize) 16 [payloadEncrypted]) 24
    (enc32 (headerSize + (payloadHeaderSize + n)))) ([first, 0] ++ enc16 (payloadHeaderSize + n)) 0
  rw [adjusted_length hp] at h
  exact h

/-- of the header only what is not adjusted counts -/
theorem contentA_congr (hp : headerSize ≤ p.length) (hq : headerSize ≤ q.length)
    (h : ∀ i, i < 24 → i ≠ 16 → byteAt p i = byteAt q i) (n : Nat) (first : UInt8) :
    contentA p n first = contentA q n first := by
  have hfront := headerCut_congr hp hq h payloadEncrypted
  have hcut : ∀ {r : Bytes}, headerSize ≤ r.length → ∀ v : Bytes, v.length = 4 →
      put (put (r.take headerSize) 16 [payloadEncrypted]) 24 v =
        (put (r.take headerSize) 16 [payloadEncrypted]).take 24 ++ v := by
    intro r hr v hv
    rw [put, hv, List.drop_eq_nil_of_le (by rw [headerPut_length hr]), List.append_nil]
  unfold contentA
  rw [hcut hp _ (enc32_length _), hcut hq _ (enc32_length _), hfront]

end

section
variable {sa : SendSa} {peer : Sa} {c : Cipher} {a : Authenticator} {draws : Draws}
  {flags : UInt8} {mid : Nat} {ps : List Pushed} {pkt plain : Bytes}

/-- the check before decryption finds the Encrypted payload as long as it says -/
theorem checkPayloads_encrypted (h : checkPayloads pkt true = true)
    (henc : nextPayload pkt = payloadEncrypted) :
    payloadLength (firstPayload pkt) = (firstPayload pkt).length := by
  obtain ⟨-, -, hloop⟩ := checkPayloads_loop h
  rw [henc, checkLoop, if_neg (by decide)] at hloop
  split at hloop
  · cases hloop
  · next hone =>
    rw [if_pos (by decide)] at hloop
    have hend : (pointNext (firstPayload pkt)).length = 0 := eq_of_beq hloop
    have hle : payloadLength (firstPayload pkt) ≤ (firstPayload pkt).length := by
      unfold checkOne at hone
      simp only [Bool.not_eq_true, Bool.not_eq_false', Bool.and_eq_true, decide_eq_true_eq] at hone
      exact hone.1.1.1.2
    unfold pointNext at hend
    rw [List.length_drop] at hend
    omega

theorem classifyDecrypt_dispatch (h : classifyDecrypt peer pkt = .dispatch plain) :
    decrypt peer pkt = some plain := by
  unfold classifyDecrypt at h
  split at h
  · cases h
  · next text htext =>
    split at h
    · rw [htext, Verdict.dispatch.inj h]
    · cases h

theorem fragSend_plan {draws : Nat → Draws} {socket : Bool} {frags : List Bytes}
    (h : fragSend sa draws socket pkt = some frags) : ∃ plan, fragPlan sa.toSa pkt = some plan := by
  unfold fragSend at h
  split at h
  · next hplan => exact ⟨_, hplan⟩
  · cases h

/-- a delivered message is the one that was built, in the clear -/
theorem Delivered.inClear (hideal : c.Ideal) (hmac : a.Ideal) (hc : sa.cipher = some c)
    (ha : sa.authenticator = some a) (hpeer : PeerOf sa.toSa peer)
    (h : packetConstruct sa draws exchIkeIntermediate flags mid ps = some pkt)
    (hcut : 65535 < encryptedPayloadLen c a sa.padConf draws.uint32 (chainOctets ps).length →
      decryptLocal sa.toSa pkt = none)
    (hdel : Delivered sa peer pkt plain) : InClear pkt ps plain := by
  have hlength := construct_length hideal hmac hc ha h
  cases hdel with
  | whole _ hchecked hdispatch =>
    have hopen := classifyDecrypt_dispatch hdispatch
    obtain ⟨key, authKey, iv, ct, icv, text, hpkt, -⟩ := packetConstruct_sealed hideal hmac hc ha h
    have henc : nextPayload pkt = payloadEncrypted := by
      rw [hpkt]
      exact HeaderFields.nextPayload_octets _ _ _ _
    have hfits : encryptedPayloadLen c a sa.padConf draws.uint32 (chainOctets ps).length ≤ 65535 := by
      have hlt : payloadLength (firstPayload pkt) < 65536 := be16_lt _ _
      rw [checkPayloads_encrypted hchecked henc, hlength] at hlt
      omega
    have hplain := Option.some.inj (hopen.symm.trans (decrypt_constructed hideal hmac hc ha hpeer h hfits))
    refine ⟨fun i hi _ => decrypt_byteAt hopen hi, (decrypt_lengths hopen).2, .inr ?_⟩
    rw [hplain]
    exact ⟨HeaderFields.nextPayload_octets _ _ _ _, HeaderFields.firstPayload_octets _ _ _ _⟩
  | fragments draws' socket frags chain ds _ hsend hsup hchain hnew hds hin hid =>
    have hfits : encryptedPayloadLen c a sa.padConf draws.uint32 (chainOctets ps).length ≤ 65535 := by
      by_contra hlarge
      obtain ⟨plan, hplan⟩ := fragSend_plan hsend
      obtain ⟨-, -, -, hwork, -⟩ := fragPlan_work hplan
      rw [hcut (Nat.lt_of_not_le hlarge)] at hwork
      cases hwork
    obtain ⟨work, hplan⟩ := fragPlan_constructed hideal hmac hc ha h hfits
    obtain ⟨chunk, hfr⟩ := fragSend_fragmented hideal hmac hc ha hpeer hsup hplan hsend
    have hsent : SentParts (messageId pkt) frags.length (firstType ps) chunk chain :=
      ⟨hchain, fun item hitem heq => absurd heq (hnew item hitem)⟩
    obtain rfl := hsent.receiveAll hfr hds hin hid
    have hinner : (chainOctets ps).length ≤ maxReasm := by
      unfold encryptedPayloadLen sealedLen at hfits
      unfold maxReasm
      omega
    have hclear := reassembled_unsealed hfr.hasHeader (firstType ps) hinner
    refine ⟨hclear.header, ?_, .inl ⟨hclear.first, hclear.payloads⟩⟩
    rw [reassembled_split hfr.hasHeader, List.length_append, headerCut_length hfr.hasHeader,
      List.length_append, enc32_length]
    unfold headerSize
    omega

theorem payloadsToBlob_fits (h : ∀ p ∈ ps, payloadHeaderSize + p.data.length < 65536) :
    payloadsToBlob ps = some (chainOctets ps) := by
  unfold payloadsToBlob
  refine if_neg fun hany => ?_
  obtain ⟨p, hp, hlarge⟩ := List.any_eq_true.mp hany
  have hfits := h p hp
  have hgt := of_decide_eq_true hlarge
  unfold payloadHeaderSize at hfits hgt
  omega

/-- a handler that holds a content has the inner payloads in it -/
theorem receivedContent_some {method : Nat} {content : Bytes}
    (h : receivedContent method plain = some content) :
    ∃ blob, packetInnerBlob plain = some blob ∧
      content = contentA plain blob.length payloadKe ++ blob := by
  unfold receivedContent at h
  split at h
  · cases h
  · split at h
    · cases h
    · obtain ⟨blob, hblob, rfl⟩ := Option.map_eq_some_iff.mp h
      exact ⟨blob, hblob, rfl⟩

/-- The content that the receiver of an IKE_INTERMEDIATE message holds is that of its sender if and only
if the sender named a KE payload as the first one, and no Encrypted payload is in front of the inner
payloads. -/
theorem intauth_agree_iff (hideal : c.Ideal) (hmac : a.Ideal) (hc : sa.cipher = some c)
    (ha : sa.authenticator = some a) (hpeer : PeerOf sa.toSa peer)
    (h : packetConstruct sa draws exchIkeIntermediate flags mid ps = some pkt)
    (hcut : 65535 < encryptedPayloadLen c a sa.padConf draws.uint32 (chainOctets ps).length →
      decryptLocal sa.toSa pkt = none)
    (hdel : Delivered sa peer pkt plain) {method : Nat} {content : Bytes}
    (hrecv : receivedContent method plain = some content) (firstInnerType : UInt8) :
    content = sentContent pkt ps firstInnerType ↔
      firstInnerType = payloadKe ∧ firstType ps ≠ payloadEncrypted := by
  obtain ⟨-, -, -, -, -, hbodies, -⟩ := packetConstruct_some hc ha h
  have hclear := hdel.inClear hideal hmac hc ha hpeer h hcut
  obtain ⟨blob, hblob, rfl⟩ := receivedContent_some hrecv
  obtain rfl := packetInnerBlob_chain hclear hbodies hblob
  have hpkt : headerSize ≤ pkt.length := by
    obtain ⟨key, authKey, iv, ct, icv, text, hpkt, -⟩ := packetConstruct_sealed hideal hmac hc ha h
    rw [hpkt, sealedPacket_length]
    omega
  have hsent : sentContent pkt ps firstInnerType
      = contentA pkt (chainOctets ps).length firstInnerType ++ chainOctets ps := by
    unfold sentContent
    rw [payloadsToBlob_fits hbodies]
    rfl
  rw [hsent, contentA_congr hclear.length hpkt hclear.header]
  constructor
  · intro heq
    have hlen : (contentA pkt (chainOctets (ps.dropWhile Pushed.isEncrypted)).length payloadKe).length =
        (contentA pkt (chainOctets ps).length firstInnerType).length := by
      rw [contentA_length hpkt, contentA_length hpkt]
    obtain ⟨hfront, hinner⟩ := List.append_inj heq hlen
    constructor
    · rw [← byteAt_contentA hpkt (chainOctets ps).length firstInnerType, ← hfront,
        byteAt_contentA hpkt]
    · intro hfirst
      have hlt := chainOctets_dropWhile_lt hfirst
      rw [hinner] at hlt
      exact Nat.lt_irrefl _ hlt
  · rintro ⟨rfl, hfirst⟩
    rw [dropWhile_encrypted hfirst]

end

/-- a KE payload of method 36 -/
def kePushed : Pushed := ⟨payloadKe, [0, 36, 0, 0, 7, 7, 7, 7], by decide⟩

/-- the message of one KE payload that both senders build -/
theorem intauth_agree_ke :
    ∃ pkt plain content,
      packetConstruct tagSend zeroDraws exchIkeIntermediate flagInitiator 1 [kePushed] = some pkt
      ∧ Delivered tagSend (tagSa false) pkt plain ∧ receivedContent 36 plain = some content
      ∧ content = sentContent pkt [kePushed] payloadKe := by
  have hrun : ((packetConstruct tagSend zeroDraws exchIkeIntermediate flagInitiator 1 [kePushed]).bind
      fun pkt => (decrypt (tagSa false) pkt).bind fun plain => (receivedContent 36 plain).map
        fun _ => (checkPayloads pkt true, decide (classifyDecrypt (tagSa false) pkt = .dispatch plain)))
        = some (true, true) := by
    decide +kernel
  obtain ⟨pkt, hpkt, hrun⟩ := Option.bind_eq_some_iff.mp hrun
  obtain ⟨plain, hplain, hrun⟩ := Option.bind_eq_some_iff.mp hrun
  obtain ⟨content, hcontent, hpair⟩ := Option.map_eq_some_iff.mp hrun
  obtain ⟨hchecked, hdispatch⟩ := Prod.mk.inj hpair
  have hdel : Delivered tagSend (tagSa false) pkt plain :=
    .whole plain hchecked (of_decide_eq_true hdispatch)
  have hsmall : ¬ 65535 < encryptedPayloadLen tagCipher noMac tagSend.padConf zeroDraws.uint32
      (chainOctets [kePushed]).length := by decide
  refine ⟨pkt, plain, content, hpkt, hdel, hcontent, ?_⟩
  exact (intauth_agree_iff tagCipher_ideal noMac_ideal rfl rfl tagSa_peer hpkt
    (fun hlarge => absurd hlarge hsmall) hdel hcontent payloadKe).mpr ⟨rfl, by decide⟩

/-- a Notify payload and an Encrypted payload in front of the KE payload -/
def notifyFirst : List Pushed := notifyPushed ++ [kePushed]
def encryptedFirst : List Pushed := [⟨payloadEncrypted, [], by decide⟩, kePushed]

/-- the message with the Notify payload is accepted, and the receiver takes KE for the type of its first
payload; of the one with the Encrypted payload it takes only the rest -/
theorem intauth_differs :
    (∃ pkt plain content,
      packetConstruct tagSend zeroDraws exchIkeIntermediate flagInitiator 1 notifyFirst = some pkt
      ∧ Delivered tagSend (tagSa false) pkt plain ∧ receivedContent 36 plain = some content
      ∧ content ≠ sentContent pkt notifyFirst (firstType notifyFirst)) ∧
    ∃ pkt plain content,
      packetConstruct tagSend zeroDraws exchIkeIntermediate flagInitiator 1 encryptedFirst = some pkt
      ∧ Delivered tagSend (tagSa false) pkt plain ∧ receivedContent 36 plain = some content
      ∧ content ≠ sentContent pkt encryptedFirst payloadKe := by
  have hrun : ∀ ps first, ((packetConstruct tagSend zeroDraws exchIkeIntermediate flagInitiator 1 ps).bind
      fun pkt => (decrypt (tagSa false) pkt).bind fun plain => (receivedContent 36 plain).map
        fun content => (checkPayloads pkt true,
          decide (classifyDecrypt (tagSa false) pkt = .dispatch plain),
          content == sentContent pkt ps first)) = some (true, true, false) →
      ∃ pkt plain content,
        packetConstruct tagSend zeroDraws exchIkeIntermediate flagInitiator 1 ps = some pkt
        ∧ Delivered tagSend (tagSa false) pkt plain ∧ receivedContent 36 plain = some content
        ∧ content ≠ sentContent pkt ps first := by
    intro ps first hrun
    obtain ⟨pkt, hpkt, hrun⟩ := Option.bind_eq_some_iff.mp hrun
    obtain ⟨plain, hplain, hrun⟩ := Option.bind_eq_some_iff.mp hrun
    obtain ⟨content, hcontent, hpair⟩ := Option.map_eq_some_iff.mp hrun
    obtain ⟨hchecked, hrest⟩ := Prod.mk.inj hpair
    obtain ⟨hdispatch, hne⟩ := Prod.mk.inj hrest
    exact ⟨pkt, plain, content, hpkt, .whole plain hchecked (of_decide_eq_true hdispatch), hcontent,
      ne_of_beq_false hne⟩
  exact ⟨hrun notifyFirst (firstType notifyFirst) (by decide +kernel),
    hrun encryptedFirst payloadKe (by decide +kernel)⟩

end Ikev2
