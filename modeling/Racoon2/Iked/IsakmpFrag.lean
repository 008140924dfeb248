import Racoon2.Lib.Collect
import Racoon2.Iked.Message

/-!
# IKEv1 fragments

`isakmp_frag_recv` and the functions it calls: the fragments of an IKEv1 message are kept in a chain
of contexts, one for each message, until the last one is there.

* `fragRecv`                one fragment;
* `Cut`                     a message in numbered fragments;
* `fragRun_eq`              a run of its fragments is the run of a collector (`Collect.run`);
* `cut_reassembled_iff`     when every order of arrival gives the message back.
-/

set_option linter.unusedVariables false

namespace Isakmp
open Bytes Ikev2

def fragHdrSize : Nat := 8
def maxFrags : Nat := 64
def maxAssemblies : Nat := 4
def fragTimeout : Nat := 60
def maxReasm : Nat := 65535

/-- `ISAKMP_NPTYPE_FRAG` -/
def nptypeFrag : UInt8 := 132

/-- `ISAKMP_FRAG_MORE` -/
def fragMore : UInt8 := 0x01

/-- `struct isakmp_frag_item` -/
structure FragItem where
  fragId : UInt8
  msgid : Nat
  lastFrag : Nat
  timeout : Nat
  parts : Nat → Option Bytes

/-- the allocations of `isakmp_frag_recv` that may fail -/
inductive AllocFail where
  | none
  | context
  | part
  | assembled
  | full
  deriving DecidableEq, Repr

/-! ## one fragment -/

/-- `isakmp_frag_expire`: contexts that timed out, and the oldest ones of more than four -/
def fragExpire (now : Nat) (chain : List FragItem) : List FragItem :=
  (chain.filter fun ctx => ! (ctx.timeout != 0 && decide (ctx.timeout < now))).take maxAssemblies

/-- the octets of the first `n` parts that there are -/
def heldOctets (parts : Nat → Option Bytes) : Nat → Nat
  | 0 => 0
  | n + 1 => heldOctets parts n + ((parts (n + 1)).elim 0 List.length)

/-- the first `n` parts, one behind the other -/
def joinParts (parts : Nat → Option Bytes) : Nat → Option Bytes
  | 0 => some []
  | n + 1 =>
    match joinParts parts n, parts (n + 1) with
    | some front, some part => some (front ++ part)
    | _, _ => none

/-- `isakmp_frags_reassemble` -/
def fragsReassemble (fail : AllocFail) (ctx : FragItem) : Option Bytes :=
  if ctx.lastFrag = 0 then none
  else
    match joinParts ctx.parts ctx.lastFrag with
    | none => none
    | some buf => if buf.length = 0 then none else if fail = .assembled then none else some buf

section
variable (fragId : UInt8) (msgid : Nat)

/-- the context of a message -/
def FragItem.isFor (ctx : FragItem) : Bool := ctx.fragId == fragId && ctx.msgid == msgid

/-- the first context of the message is another one -/
def replaceCtx (ctx : FragItem) : List FragItem → List FragItem
  | [] => []
  | c :: cs => if c.isFor fragId msgid then ctx :: cs else c :: replaceCtx ctx cs

/-- `isakmp_frag_detach` -/
def detachCtx (chain : List FragItem) : List FragItem :=
  chain.eraseP fun c => c.isFor fragId msgid

end

/-- the reassembled message: the header of the fragment at hand, with the next payload of its
fragment payload and a new length -/
def fullMessage (packet assembled : Bytes) : Bytes :=
  put (put (packet.take headerSize) 16 [byteAt packet headerSize]) 24
    (enc32 (headerSize + assembled.length)) ++ assembled

def packetFragId (packet : Bytes) : UInt8 := byteAt packet (headerSize + 4)

section
variable (fail : AllocFail) (packet : Bytes) (fragNo : Nat) (data : Bytes)

/-- the fragment goes to its context, which is the first one of the message in the chain -/
def fragStore (ctx : FragItem) (chain : List FragItem) : List FragItem × Option Bytes :=
  if (ctx.parts fragNo).isSome then (chain, none)
  else if fail = .part then (detachCtx ctx.fragId ctx.msgid chain, none)
  else
    let parts := Function.update ctx.parts fragNo (some data)
    -- the part that was just allocated is among those held
    if maxReasm < heldOctets parts (maxFrags - 1) + data.length then
      (detachCtx ctx.fragId ctx.msgid chain, none)
    else
      let last := byteAt packet (headerSize + 5) &&& fragMore = 0 ∧ ctx.lastFrag = 0
      let ctx := { ctx with parts := parts, lastFrag := if last then fragNo else ctx.lastFrag }
      if ctx.lastFrag = 0 then (replaceCtx ctx.fragId ctx.msgid ctx chain, none)
      else if joinParts ctx.parts ctx.lastFrag = none then
        (replaceCtx ctx.fragId ctx.msgid ctx chain, none)
      else
        (detachCtx ctx.fragId ctx.msgid chain,
          match fragsReassemble fail ctx with
          | none => none
          | some assembled => if fail = .full then none else some (fullMessage packet assembled))

/-- the context of the message, or a new one before all others -/
def fragEnter (now : Nat) (chain : List FragItem) : List FragItem × Option Bytes :=
  match chain.find? fun ctx => ctx.isFor (packetFragId packet) (messageId packet) with
  | some ctx => fragStore fail packet fragNo data ctx chain
  | none =>
    if fail = .context then (chain, none)
    else
      let ctx : FragItem :=
        ⟨packetFragId packet, messageId packet, 0, now + fragTimeout, fun _ => none⟩
      fragStore fail packet fragNo data ctx (ctx :: chain)

end

/-- `isakmp_frag_recv` -/
def fragRecv (fail : AllocFail) (now : Nat) (chain : List FragItem) (packet : Bytes) :
    List FragItem × Option Bytes :=
  let chain := fragExpire now chain
  if packet.length < headerSize + fragHdrSize then (chain, none)
  else
    let fragNo := be16 packet (headerSize + 6)
    if fragNo = 0 ∨ maxFrags ≤ fragNo then (chain, none)
    else if packet.length < headerLength packet then (chain, none)
    else if be16 packet (headerSize + 2) < fragHdrSize then (chain, none)
    else
      let dataLen := be16 packet (headerSize + 2) - fragHdrSize
      if packet.length < headerSize + fragHdrSize + dataLen then (chain, none)
      else fragEnter fail packet fragNo (slice packet (headerSize + fragHdrSize) dataLen) now chain

/-! ## a message in fragments -/

/-- a message of at most 65535 octets, cut into numbered fragments -/
structure Cut where
  spis : Octets 16
  np : UInt8
  mid : Octets 7
  fragId : UInt8
  chunks : List Bytes
  nonempty : chunks ≠ []
  count : chunks.length < 65536
  size : headerSize + chunks.flatten.length ≤ maxReasm

namespace Cut

variable (c : Cut)

/-- the message -/
def octets : Bytes := message c.spis c.np c.mid (headerSize + c.chunks.flatten.length) c.chunks.flatten

/-- the chunk of a number, from 1 on -/
def chunk (no : Nat) : Bytes := c.chunks[no - 1]?.getD []

/-- the fragment payload -/
def payload (no : Nat) : Bytes :=
  [c.np, 0] ++ enc16 (fragHdrSize + (c.chunk no).length)
    ++ [c.fragId, if no = c.chunks.length then 0 else fragMore] ++ enc16 no ++ c.chunk no

/-- the fragment of a number; the last one has no flag for more -/
def fragment (no : Nat) : Bytes :=
  message c.spis nptypeFrag c.mid (headerSize + (c.payload no).length) (c.payload no)

end Cut

/-- a fragment that arrives -/
structure Arrival where
  no : Nat
  now : Nat

/-- what `isakmp_frag_recv` returns for each fragment -/
def fragRun (c : Cut) : List FragItem → List Arrival → List (Option Bytes)
  | _, [] => []
  | chain, a :: as =>
    (fragRecv .none a.now chain (c.fragment a.no)).2
      :: fragRun c (fragRecv .none a.now chain (c.fragment a.no)).1 as

/-! ## the fields of a fragment -/

section
variable (c : Cut) {no : Nat}

def Cut.msgid : Nat := be32 c.mid.1 3

theorem Cut.chunk_le (no : Nat) : (c.chunk no).length ≤ c.chunks.flatten.length := by
  unfold Cut.chunk
  by_cases h : no - 1 < c.chunks.length
  · rw [List.getElem?_eq_getElem h]
    exact List.Sublist.length_le (List.sublist_flatten_of_mem (List.getElem_mem h))
  · rw [List.getElem?_eq_none (Nat.le_of_not_lt h)]
    exact Nat.zero_le _

theorem Cut.payload_length (no : Nat) :
    (c.payload no).length = fragHdrSize + (c.chunk no).length := by
  unfold Cut.payload
  rw [List.length_append]
  rfl

theorem Cut.messageId_fragment (no : Nat) : messageId (c.fragment no) = c.msgid :=
  messageId_message _ _ _ _ _

theorem Cut.packetFragId_fragment (no : Nat) : packetFragId (c.fragment no) = c.fragId :=
  byteAt_body _ _ _ _ _ 4

/-- the fragment without the flag for more is the last one -/
theorem Cut.more_fragment (no : Nat) :
    byteAt (c.fragment no) (headerSize + 5) &&& fragMore = 0 ↔ no = c.chunks.length := by
  have hflags : byteAt (c.fragment no) (headerSize + 5) =
      if no = c.chunks.length then 0 else fragMore := byteAt_body _ _ _ _ _ 5
  rw [hflags]
  split
  · next h => exact iff_of_true (by decide) h
  · next h => exact iff_of_false (by decide) h

/-- the fragment, put together with its own header -/
theorem Cut.fullMessage_fragment (no : Nat) :
    fullMessage (c.fragment no) c.chunks.flatten = c.octets := by
  have hnp : byteAt (c.fragment no) headerSize = c.np := byteAt_body _ _ _ _ _ 0
  unfold fullMessage
  rw [hnp]
  unfold Cut.fragment
  rw [take_header, put_next, put_headerLength, message_nil_append]
  rfl

theorem Cut.fragment_length (no : Nat) :
    (c.fragment no).length = headerSize + (fragHdrSize + (c.chunk no).length) := by
  unfold Cut.fragment
  rw [message_length, c.payload_length]

theorem Cut.number_fragment (h : no ≤ c.chunks.length) : be16 (c.fragment no) (headerSize + 6) = no := by
  have hcount := c.count
  unfold Cut.fragment
  rw [be16_body]
  exact octets_value (by omega)

theorem fragRecv_beyond {chain : List FragItem} {now : Nat} (hle : no ≤ c.chunks.length)
    (hno : maxFrags ≤ no) :
    fragRecv .none now chain (c.fragment no) = (fragExpire now chain, none) := by
  have hlen := c.fragment_length no
  unfold fragRecv
  dsimp only
  rw [if_neg (by omega), c.number_fragment hle, if_pos (.inr hno)]

/-- a fragment whose number is below 64 passes all tests -/
theorem fragRecv_fragment {chain : List FragItem} {now : Nat} (hpos : 1 ≤ no)
    (hle : no ≤ c.chunks.length) (hno : no < maxFrags) :
    fragRecv .none now chain (c.fragment no) =
      fragEnter .none (c.fragment no) no (c.chunk no) now (fragExpire now chain) := by
  have hsize := c.size
  have hchunk := c.chunk_le no
  have hpayload := c.payload_length no
  unfold maxReasm headerSize at hsize
  have hlen := c.fragment_length no
  have hfield : headerLength (c.fragment no) = headerSize + (fragHdrSize + (c.chunk no).length) := by
    unfold Cut.fragment
    rw [headerLength_message _ _ _ _ _ (by unfold headerSize; unfold fragHdrSize at hpayload; omega),
      hpayload]
  have hgen : be16 (c.fragment no) (headerSize + 2) = fragHdrSize + (c.chunk no).length := by
    unfold Cut.fragment
    rw [be16_body]
    exact octets_value (by unfold fragHdrSize; omega)
  have hdata : slice (c.fragment no) (headerSize + fragHdrSize) (c.chunk no).length = c.chunk no := by
    unfold Cut.fragment
    rw [slice_body]
    show slice (c.chunk no) 0 (c.chunk no).length = c.chunk no
    exact List.take_length
  unfold fragRecv
  dsimp only
  rw [hlen, if_neg (by omega), c.number_fragment hle, if_neg (by omega), hfield, if_neg (Nat.lt_irrefl _), hgen,
    if_neg (by omega), Nat.add_sub_cancel_left, if_neg (by omega), hdata]

end

/-! ## parts -/

section
variable {parts parts' : Nat → Option Bytes} {n m : Nat}

theorem heldOctets_le (h : ∀ no, (parts no).elim 0 List.length ≤ (parts' no).elim 0 List.length) :
    heldOctets parts n ≤ heldOctets parts' n := by
  induction n with
  | zero => exact Nat.le_refl 0
  | succ n ih => exact Nat.add_le_add ih (h (n + 1))

theorem heldOctets_mono (h : m ≤ n) : heldOctets parts m ≤ heldOctets parts n := by
  induction n with
  | zero => exact Nat.le_zero.mp h ▸ Nat.le_refl _
  | succ n ih =>
    rcases Nat.le_succ_iff.mp h with hle | rfl
    · exact Nat.le_trans (ih hle) (Nat.le_add_right _ _)
    · exact Nat.le_refl _

theorem heldOctets_congr (h : ∀ no, 1 ≤ no → no ≤ n → parts no = parts' no) :
    heldOctets parts n = heldOctets parts' n := by
  induction n with
  | zero => rfl
  | succ n ih =>
    rw [heldOctets, heldOctets, ih fun no hpos hle => h no hpos (Nat.le_succ_of_le hle),
      h (n + 1) (Nat.succ_pos n) (Nat.le_refl _)]

theorem joinParts_congr (h : ∀ no, 1 ≤ no → no ≤ n → parts no = parts' no) :
    joinParts parts n = joinParts parts' n := by
  induction n with
  | zero => rfl
  | succ n ih =>
    rw [joinParts, joinParts, ih fun no hpos hle => h no hpos (Nat.le_succ_of_le hle),
      h (n + 1) (Nat.succ_pos n) (Nat.le_refl _)]

/-- nothing is missing in what was joined -/
theorem joinParts_isSome {b : Bytes} (h : joinParts parts n = some b) {no : Nat} (hpos : 1 ≤ no)
    (hle : no ≤ n) : (parts no).isSome = true := by
  induction n generalizing b with
  | zero => exact absurd (Nat.le_trans hpos hle) (by decide)
  | succ n ih =>
    rw [joinParts] at h
    split at h
    · next front part hfront hpart =>
      rcases Nat.le_succ_iff.mp hle with hle' | rfl
      · exact ih hfront hle'
      · rw [hpart]
        rfl
    · cases h

end

section
variable (c : Cut)

/-- all parts of the message -/
def Cut.part (no : Nat) : Option Bytes :=
  if 1 ≤ no ∧ no ≤ c.chunks.length then some (c.chunk no) else none

theorem Cut.take_succ_flatten {k : Nat} (h : k < c.chunks.length) :
    (c.chunks.take (k + 1)).flatten = (c.chunks.take k).flatten ++ c.chunk (k + 1) := by
  unfold Cut.chunk
  rw [Nat.add_sub_cancel, List.getElem?_eq_getElem h, List.take_succ_eq_append_getElem h,
    List.flatten_append, List.flatten_singleton]
  rfl

theorem Cut.joinParts_part {k : Nat} (h : k ≤ c.chunks.length) :
    joinParts c.part k = some (c.chunks.take k).flatten := by
  induction k with
  | zero => rfl
  | succ k ih =>
    have hpart : c.part (k + 1) = some (c.chunk (k + 1)) := if_pos ⟨Nat.succ_pos k, h⟩
    rw [joinParts, ih (Nat.le_of_succ_le h), hpart, c.take_succ_flatten h]

theorem Cut.heldOctets_part (k : Nat) : heldOctets c.part k = (c.chunks.take k).flatten.length := by
  induction k with
  | zero => rfl
  | succ k ih =>
    rw [heldOctets, ih]
    by_cases h : k + 1 ≤ c.chunks.length
    · have hpart : c.part (k + 1) = some (c.chunk (k + 1)) := if_pos ⟨Nat.succ_pos k, h⟩
      rw [hpart, c.take_succ_flatten h, List.length_append]
      rfl
    · have hpart : c.part (k + 1) = none := if_neg fun hc => h hc.2
      rw [hpart, List.take_of_length_le (by omega), List.take_of_length_le (by omega)]
      rfl

/-- all parts together are the message behind its header -/
theorem Cut.heldOctets_all {k : Nat} (h : c.chunks.length ≤ k) :
    heldOctets c.part k = c.chunks.flatten.length := by
  rw [c.heldOctets_part, List.take_of_length_le h]

theorem Cut.joinParts_all : joinParts c.part c.chunks.length = some c.chunks.flatten := by
  rw [c.joinParts_part (Nat.le_refl _), List.take_length]

end

theorem fragsReassemble_join {ctx : FragItem} {buf : Bytes} (hzero : ctx.lastFrag ≠ 0)
    (hjoin : joinParts ctx.parts ctx.lastFrag = some buf) :
    fragsReassemble .none ctx = if buf.length = 0 then none else some buf := by
  unfold fragsReassemble
  rw [if_neg hzero, hjoin]
  rfl

/-! ## what a fragment does to its context -/

/-- the context with one more part -/
def Cut.stored (c : Cut) (no : Nat) (ctx : FragItem) : FragItem where
  fragId := ctx.fragId
  msgid := ctx.msgid
  lastFrag := if no = c.chunks.length ∧ ctx.lastFrag = 0 then no else ctx.lastFrag
  timeout := ctx.timeout
  parts := Function.update ctx.parts no (some (c.chunk no))

section
variable {c : Cut} {no : Nat} {ctx : FragItem} {chain : List FragItem}

theorem fragStore_duplicate (h : (ctx.parts no).isSome = true) :
    fragStore .none (c.fragment no) no (c.chunk no) ctx chain = (chain, none) := if_pos h

theorem fragStore_exceeds (hnew : ctx.parts no = none)
    (h : maxReasm < heldOctets (c.stored no ctx).parts (maxFrags - 1) + (c.chunk no).length) :
    fragStore .none (c.fragment no) no (c.chunk no) ctx chain =
      (detachCtx ctx.fragId ctx.msgid chain, none) := by
  unfold fragStore
  rw [hnew, if_neg (by decide), if_neg (by decide)]
  exact if_pos h

section
variable (hnew : ctx.parts no = none)
  (hheld : heldOctets (c.stored no ctx).parts (maxFrags - 1) + (c.chunk no).length ≤ maxReasm)
include hnew hheld

/-- the part is kept -/
theorem fragStore_kept :
    fragStore .none (c.fragment no) no (c.chunk no) ctx chain =
      if (c.stored no ctx).lastFrag = 0 ∨
          joinParts (c.stored no ctx).parts (c.stored no ctx).lastFrag = none then
        (replaceCtx ctx.fragId ctx.msgid (c.stored no ctx) chain, none)
      else
        (detachCtx ctx.fragId ctx.msgid chain,
          (fragsReassemble .none (c.stored no ctx)).map (fullMessage (c.fragment no))) := by
  have hlast : (if byteAt (c.fragment no) (headerSize + 5) &&& fragMore = 0 ∧ ctx.lastFrag = 0 then no
      else ctx.lastFrag) = (c.stored no ctx).lastFrag :=
    if_congr (and_congr_left fun _ => c.more_fragment no) rfl rfl
  unfold fragStore
  rw [hnew, if_neg (by decide), if_neg (by decide)]
  dsimp only
  rw [hlast]
  refine (if_neg (Nat.not_lt.mpr hheld)).trans ?_
  by_cases hzero : (c.stored no ctx).lastFrag = 0
  · rw [if_pos hzero, if_pos (.inl hzero)]
    rfl
  · by_cases hjoin : joinParts (c.stored no ctx).parts (c.stored no ctx).lastFrag = none
    · rw [if_neg hzero]
      refine (if_pos hjoin).trans ?_
      rw [if_pos (.inr hjoin)]
      rfl
    · rw [if_neg hzero]
      refine (if_neg hjoin).trans ?_
      rw [if_neg (not_or.mpr ⟨hzero, hjoin⟩)]
      refine congrArg (Prod.mk _) ?_
      show (match fragsReassemble .none (c.stored no ctx) with
        | none => none
        | some assembled => _) = _
      cases fragsReassemble .none (c.stored no ctx) <;> rfl

end

end

/-! ## a context that collects -/

/-- there is no context of the message -/
def Fresh (c : Cut) (chain : List FragItem) : Prop :=
  ∀ ctx ∈ chain, ctx.isFor c.fragId c.msgid = false

/-- the context of the message with the parts `seen` -/
def ctxOf (c : Cut) (seen : Finset Nat) (timeout : Nat) : FragItem where
  fragId := c.fragId
  msgid := c.msgid
  lastFrag := if c.chunks.length ∈ seen then c.chunks.length else 0
  timeout := timeout
  parts := fun no => if no ∈ seen then some (c.chunk no) else none

/-- the chain holds the parts `seen`; the context is the latest one, and lives until `limit` -/
def Holds (c : Cut) (limit : Nat) (chain : List FragItem) (seen : Finset Nat) : Prop :=
  (seen = ∅ ∧ Fresh c chain) ∨
    ∃ timeout rest, chain = ctxOf c seen timeout :: rest ∧ Fresh c rest ∧ limit ≤ timeout

section
variable {c : Cut} {limit now : Nat} {chain rest : List FragItem} {seen : Finset Nat}

theorem Fresh.expire (h : Fresh c chain) (now : Nat) : Fresh c (fragExpire now chain) :=
  fun ctx hctx => h ctx (List.mem_of_mem_filter (List.mem_of_mem_take hctx))

theorem ctxOf_isFor (timeout : Nat) : (ctxOf c seen timeout).isFor c.fragId c.msgid = true := by
  unfold FragItem.isFor ctxOf
  rw [beq_self_eq_true, beq_self_eq_true]
  rfl

/-- the context does not time out, nor is it the oldest of too many -/
theorem Holds.expire (h : Holds c limit chain seen) (hnow : now ≤ limit) :
    Holds c limit (fragExpire now chain) seen := by
  rcases h with ⟨hseen, hfresh⟩ | ⟨timeout, rest, rfl, hfresh, htimeout⟩
  · exact .inl ⟨hseen, hfresh.expire now⟩
  · have hlive : (!((ctxOf c seen timeout).timeout != 0
        && decide ((ctxOf c seen timeout).timeout < now))) = true := by
      show (!(timeout != 0 && decide (timeout < now))) = true
      rw [decide_eq_false (by omega), Bool.and_false]
      rfl
    refine .inr ⟨timeout, (rest.filter fun ctx => ! (ctx.timeout != 0
      && decide (ctx.timeout < now))).take 3, ?_, ?_, htimeout⟩
    · unfold fragExpire
      rw [List.filter_cons, if_pos hlive]
      rfl
    · exact fun ctx hctx => hfresh ctx (List.mem_of_mem_filter (List.mem_of_mem_take hctx))

/-- a fragment comes to the context of its message -/
theorem fragEnter_holds (h : Holds c limit chain seen) (hnow : limit ≤ now + fragTimeout) (no : Nat) :
    ∃ timeout rest, Fresh c rest ∧ limit ≤ timeout ∧
      fragEnter .none (c.fragment no) no (c.chunk no) now chain =
        fragStore .none (c.fragment no) no (c.chunk no) (ctxOf c seen timeout)
          (ctxOf c seen timeout :: rest) := by
  unfold fragEnter
  rw [c.packetFragId_fragment, c.messageId_fragment]
  rcases h with ⟨rfl, hfresh⟩ | ⟨timeout, rest, rfl, hfresh, htimeout⟩
  · have hnone : (chain.find? fun ctx => ctx.isFor c.fragId c.msgid) = none := by
      refine List.find?_eq_none.mpr fun ctx hctx => ?_
      rw [hfresh ctx hctx]
      decide
    refine ⟨now + fragTimeout, chain, hfresh, hnow, ?_⟩
    rw [hnone]
    rfl
  · refine ⟨timeout, rest, hfresh, htimeout, ?_⟩
    rw [List.find?_cons_of_pos (ctxOf_isFor timeout)]

theorem detachCtx_head {ctx : FragItem} (h : ctx.isFor c.fragId c.msgid = true) :
    detachCtx c.fragId c.msgid (ctx :: rest) = rest := List.eraseP_cons_of_pos h

theorem replaceCtx_head {ctx ctx' : FragItem} (h : ctx.isFor c.fragId c.msgid = true) :
    replaceCtx c.fragId c.msgid ctx' (ctx :: rest) = ctx' :: rest := if_pos h

/-- another part -/
theorem stored_ctxOf {no : Nat} (hno : no ∉ seen) (timeout : Nat) :
    c.stored no (ctxOf c seen timeout) = ctxOf c (insert no seen) timeout := by
  have hparts : (c.stored no (ctxOf c seen timeout)).parts =
      (ctxOf c (insert no seen) timeout).parts := by
    funext i
    show Function.update (ctxOf c seen timeout).parts no (some (c.chunk no)) i =
      if i ∈ insert no seen then some (c.chunk i) else none
    by_cases hi : i = no
    · rw [hi, Function.update_self, if_pos (Finset.mem_insert_self no seen)]
    · rw [Function.update_of_ne hi]
      have hmem : i ∈ insert no seen ↔ i ∈ seen := by rw [Finset.mem_insert, or_iff_right hi]
      show (if i ∈ seen then some (c.chunk i) else none) = _
      rw [if_congr hmem rfl rfl]
  have hlast : (c.stored no (ctxOf c seen timeout)).lastFrag =
      (ctxOf c (insert no seen) timeout).lastFrag := by
    show (if no = c.chunks.length ∧ (if c.chunks.length ∈ seen then c.chunks.length else 0) = 0 then no
      else if c.chunks.length ∈ seen then c.chunks.length else 0) =
      if c.chunks.length ∈ insert no seen then c.chunks.length else 0
    by_cases hn : no = c.chunks.length
    · have hout : c.chunks.length ∉ seen := hn ▸ hno
      rw [if_neg hout, if_pos ⟨hn, rfl⟩, if_pos (hn ▸ Finset.mem_insert_self no seen), hn]
    · have hmem : c.chunks.length ∈ insert no seen ↔ c.chunks.length ∈ seen := by
        rw [Finset.mem_insert, or_iff_right (Ne.symm hn)]
      rw [if_neg fun hc => hn hc.1, if_congr hmem rfl rfl]
  show (⟨c.fragId, c.msgid, (c.stored no (ctxOf c seen timeout)).lastFrag, timeout,
    (c.stored no (ctxOf c seen timeout)).parts⟩ : FragItem) = _
  rw [hparts, hlast]
  rfl

/-- the numbers of the fragments -/
def Cut.numbers (c : Cut) : Finset Nat := Finset.Icc 1 c.chunks.length

theorem ctxOf_parts_all (timeout : Nat) : (ctxOf c c.numbers timeout).parts = c.part := by
  funext no
  show (if no ∈ Finset.Icc 1 c.chunks.length then some (c.chunk no) else none) = _
  unfold Cut.part
  rw [if_congr Finset.mem_Icc rfl rfl]

theorem ctxOf_held_le (hsub : seen ⊆ c.numbers) (timeout : Nat) (h : c.chunks.length ≤ maxFrags - 1) :
    heldOctets (ctxOf c seen timeout).parts (maxFrags - 1) ≤ c.chunks.flatten.length := by
  rw [← c.heldOctets_all h]
  refine heldOctets_le fun no => ?_
  show (if no ∈ seen then some (c.chunk no) else none).elim 0 List.length ≤ _
  split
  · next hno =>
    have hpart : c.part no = some (c.chunk no) := if_pos (Finset.mem_Icc.mp (hsub hno))
    rw [hpart]
  · exact Nat.zero_le _

/-- the parts join when the last one and all others are there -/
theorem ctxOf_join_iff (hsub : seen ⊆ c.numbers) (timeout : Nat) :
    ((ctxOf c seen timeout).lastFrag = 0 ∨
      joinParts (ctxOf c seen timeout).parts (ctxOf c seen timeout).lastFrag = none) ↔
      seen ≠ c.numbers := by
  have hpos : 0 < c.chunks.length := List.length_pos_iff.mpr c.nonempty
  constructor
  · rintro h rfl
    have hmem : c.chunks.length ∈ c.numbers := Finset.mem_Icc.mpr ⟨hpos, Nat.le_refl _⟩
    have hlast : (ctxOf c c.numbers timeout).lastFrag = c.chunks.length := if_pos hmem
    rw [hlast, ctxOf_parts_all, c.joinParts_all] at h
    rcases h with h | h
    · omega
    · cases h
  · intro hne
    by_contra hc
    rw [not_or] at hc
    have hmem : c.chunks.length ∈ seen := by
      by_contra hout
      exact hc.1 (if_neg hout)
    have hlast : (ctxOf c seen timeout).lastFrag = c.chunks.length := if_pos hmem
    rw [hlast] at hc
    obtain ⟨b, hb⟩ := Option.ne_none_iff_exists'.mp hc.2
    refine hne (Finset.Subset.antisymm hsub fun no hno => ?_)
    obtain ⟨h1, h2⟩ := Finset.mem_Icc.mp hno
    have hsome := joinParts_isSome hb h1 h2
    by_contra hout
    have hnone : (ctxOf c seen timeout).parts no = none := if_neg hout
    rw [hnone] at hsome
    cases hsome

/-- a fragment is one step of the collector -/
theorem fragStore_ctxOf {no timeout : Nat} (hfresh : Fresh c rest) (htimeout : limit ≤ timeout)
    (hsub : seen ⊆ c.numbers) (hne : seen ≠ c.numbers) (hno : no ∈ c.numbers)
    (hcount : c.chunks.length ≤ maxFrags - 1) (hbody : 0 < c.chunks.flatten.length)
    (hheld : c.chunks.flatten.length + (c.chunk no).length ≤ maxReasm) :
    ∃ chain', Holds c limit chain' (Collect.one c.numbers seen (some no)).1 ∧
      fragStore .none (c.fragment no) no (c.chunk no) (ctxOf c seen timeout)
        (ctxOf c seen timeout :: rest) =
        (chain', if (Collect.one c.numbers seen (some no)).2 then some c.octets else none) := by
  have hfor : (ctxOf c seen timeout).isFor c.fragId c.msgid = true := ctxOf_isFor timeout
  by_cases hmem : no ∈ seen
  · have hpart : ((ctxOf c seen timeout).parts no).isSome = true := by
      show (if no ∈ seen then some (c.chunk no) else none).isSome = true
      rw [if_pos hmem]
      rfl
    have hone : Collect.one c.numbers seen (some no) = (seen, false) := by
      have hstep : Collect.one c.numbers seen (some no) = (insert no seen, false) :=
        if_neg (by rwa [Finset.insert_eq_of_mem hmem])
      rw [hstep, Finset.insert_eq_of_mem hmem]
    rw [fragStore_duplicate hpart, hone]
    exact ⟨_, .inr ⟨timeout, rest, rfl, hfresh, htimeout⟩, rfl⟩
  · have hnew : (ctxOf c seen timeout).parts no = none := if_neg hmem
    have hstored := stored_ctxOf (c := c) hmem timeout
    have hsub' : insert no seen ⊆ c.numbers := Finset.insert_subset hno hsub
    have hle := ctxOf_held_le hsub' timeout hcount
    rw [fragStore_kept hnew (by rw [hstored]; omega), hstored, if_congr (ctxOf_join_iff hsub' timeout) rfl rfl]
    by_cases hall : insert no seen = c.numbers
    · have hone : Collect.one c.numbers seen (some no) = (∅, true) := if_pos hall
      have hwhole : fragsReassemble .none (ctxOf c c.numbers timeout) = some c.chunks.flatten := by
        have hpos : 0 < c.chunks.length := List.length_pos_iff.mpr c.nonempty
        have hlast : (ctxOf c c.numbers timeout).lastFrag = c.chunks.length :=
          if_pos (Finset.mem_Icc.mpr ⟨hpos, Nat.le_refl _⟩)
        have hjoin : joinParts (ctxOf c c.numbers timeout).parts (ctxOf c c.numbers timeout).lastFrag =
            some c.chunks.flatten := by rw [hlast, ctxOf_parts_all, c.joinParts_all]
        rw [fragsReassemble_join (by omega) hjoin, if_neg (by omega)]
      rw [hone, hall, if_neg (not_not.mpr rfl), hwhole]
      refine ⟨rest, .inl ⟨rfl, hfresh⟩, Prod.ext (detachCtx_head hfor) ?_⟩
      exact congrArg some (c.fullMessage_fragment no)
    · have hone : Collect.one c.numbers seen (some no) = (insert no seen, false) := if_neg hall
      rw [hone, if_pos hall]
      refine ⟨ctxOf c (insert no seen) timeout :: rest, .inr ⟨timeout, rest, rfl, hfresh, htimeout⟩, ?_⟩
      exact Prod.ext (replaceCtx_head hfor) rfl

/-! ## a run -/

/-- the limits that the message has to keep: fewer than 64 fragments, some octet behind the header, and
every chunk counted twice within the maximum -/
def Cut.Fits (c : Cut) : Prop :=
  c.chunks.length < maxFrags ∧ 0 < c.chunks.flatten.length ∧
    ∀ ch ∈ c.chunks, c.chunks.flatten.length + ch.length ≤ maxReasm

/-- the arrivals are fragments of the message, within the lifetime of a context -/
def Cut.Arrives (c : Cut) (start : Nat) (as : List Arrival) : Prop :=
  ∀ a ∈ as, a.no ∈ c.numbers ∧ start ≤ a.now ∧ a.now ≤ start + fragTimeout

theorem Cut.chunk_mem {no : Nat} (h : no ∈ c.numbers) : c.chunk no ∈ c.chunks := by
  obtain ⟨hpos, hle⟩ := Finset.mem_Icc.mp h
  have hlt : no - 1 < c.chunks.length := by omega
  unfold Cut.chunk
  rw [List.getElem?_eq_getElem hlt]
  exact List.getElem_mem hlt

/-- one fragment that arrives -/
theorem Holds.fragRecv (h : Holds c limit chain seen) (hfits : c.Fits) (hsub : seen ⊆ c.numbers)
    (hne : seen ≠ c.numbers) {no : Nat} (hno : no ∈ c.numbers) (hnow : now ≤ limit)
    (hlimit : limit ≤ now + fragTimeout) :
    ∃ chain', Holds c limit chain' (Collect.one c.numbers seen (some no)).1 ∧
      Isakmp.fragRecv .none now chain (c.fragment no) =
        (chain', if (Collect.one c.numbers seen (some no)).2 then some c.octets else none) := by
  obtain ⟨hpos, hle⟩ := Finset.mem_Icc.mp hno
  obtain ⟨hcount, hbody, hheld⟩ := hfits
  rw [fragRecv_fragment c hpos hle (Nat.lt_of_le_of_lt hle hcount)]
  obtain ⟨timeout, rest, hfresh, htimeout, henter⟩ := fragEnter_holds (h.expire hnow) hlimit no
  rw [henter]
  exact fragStore_ctxOf hfresh htimeout hsub hne hno (Nat.le_pred_of_lt hcount) hbody
    (hheld _ (Cut.chunk_mem hno))

/-- a run of fragments is a run of the collector of their numbers -/
theorem fragRun_eq (hfits : c.Fits) {start : Nat} (as : List Arrival) (has : c.Arrives start as) :
    ∀ chain seen, Holds c (start + fragTimeout) chain seen → seen ⊆ c.numbers → seen ≠ c.numbers →
      fragRun c chain as = (Collect.run c.numbers seen (as.map fun a => some a.no)).map
        fun done => if done then some c.octets else none := by
  induction as with
  | nil =>
    intro chain seen hholds hsub hne
    rfl
  | cons a as ih =>
    intro chain seen hholds hsub hne
    obtain ⟨hno, hlow, hhigh⟩ := has a List.mem_cons_self
    obtain ⟨chain', hholds', heq⟩ := hholds.fragRecv hfits hsub hne hno hhigh (by omega)
    obtain ⟨hsub', hne'⟩ := Collect.one_open hno hsub
    rw [fragRun, heq, ih (fun b hb => has b (List.mem_cons_of_mem _ hb)) chain' _ hholds' hsub' hne']
    rfl

end

/-! ## what a returned message tells -/

/-- every context of the message has parts of it with the numbers `P` only -/
def Sound (c : Cut) (P : Nat → Prop) (chain : List FragItem) : Prop :=
  ∀ ctx ∈ chain, ctx.isFor c.fragId c.msgid = true →
    (∀ no, ctx.parts no = none ∨ (P no ∧ ctx.parts no = some (c.chunk no))) ∧
      (ctx.lastFrag = 0 ∨ (ctx.lastFrag = c.chunks.length ∧ c.chunks.length < maxFrags))

/-- the message comes back with the fragment `no` when all others are there and the limits are kept -/
def Cut.Ends (c : Cut) (P : Nat → Prop) (no : Nat) : Prop :=
  c.chunks.length < maxFrags ∧ 0 < c.chunks.flatten.length ∧
    c.chunks.flatten.length + (c.chunk no).length ≤ maxReasm ∧ ∀ i ∈ c.numbers, i = no ∨ P i

section
variable {c : Cut} {P Q : Nat → Prop} {chain : List FragItem} {ctx : FragItem} {no now : Nat}

theorem Sound.mono (h : Sound c P chain) (hPQ : ∀ i, P i → Q i) : Sound c Q chain := by
  intro ctx hctx hfor
  obtain ⟨hparts, hlast⟩ := h ctx hctx hfor
  exact ⟨fun i => (hparts i).imp_right fun hi => ⟨hPQ i hi.1, hi.2⟩, hlast⟩

theorem Sound.subset (h : Sound c P chain) {chain' : List FragItem} (hsub : ∀ x ∈ chain', x ∈ chain) :
    Sound c P chain' := fun x hx => h x (hsub x hx)

theorem Sound.expire (h : Sound c P chain) (now : Nat) : Sound c P (fragExpire now chain) :=
  h.subset fun ctx hctx => List.mem_of_mem_filter (List.mem_of_mem_take hctx)

theorem mem_replaceCtx {ctx' x : FragItem} {fragId : UInt8} {msgid : Nat} :
    x ∈ replaceCtx fragId msgid ctx' chain → x = ctx' ∨ x ∈ chain := by
  induction chain with
  | nil => exact fun h => absurd h List.not_mem_nil
  | cons y ys ih =>
    intro h
    unfold replaceCtx at h
    split at h
    · rcases List.mem_cons.mp h with heq | hin
      · exact .inl heq
      · exact .inr (List.mem_cons_of_mem y hin)
    · rcases List.mem_cons.mp h with rfl | hin
      · exact .inr List.mem_cons_self
      · exact (ih hin).imp_right (List.mem_cons_of_mem y)

/-- the context with one more part is sound -/
theorem Sound.stored (h : Sound c P [ctx]) (hfor : ctx.isFor c.fragId c.msgid = true)
    (hno : no < maxFrags) : Sound c (fun i => i = no ∨ P i) [c.stored no ctx] := by
  obtain ⟨hparts, hlast⟩ := h ctx List.mem_cons_self hfor
  intro x hx _
  obtain rfl := List.mem_singleton.mp hx
  constructor
  · intro i
    by_cases hi : i = no
    · refine .inr ⟨.inl hi, ?_⟩
      rw [hi]
      exact Function.update_self _ _ _
    · have hsame : (c.stored no ctx).parts i = ctx.parts i := Function.update_of_ne hi _ _
      rw [hsame]
      exact (hparts i).imp_right fun hp => ⟨.inr hp.1, hp.2⟩
  · show (if no = c.chunks.length ∧ ctx.lastFrag = 0 then no else ctx.lastFrag) = 0 ∨ _
    by_cases hend : no = c.chunks.length ∧ ctx.lastFrag = 0
    · have hset : (c.stored no ctx).lastFrag = no := if_pos hend
      rw [hset]
      exact .inr ⟨hend.1, hend.1 ▸ hno⟩
    · have hset : (c.stored no ctx).lastFrag = ctx.lastFrag := if_neg hend
      rw [if_neg hend, hset]
      exact hlast

/-- what was joined is the whole message -/
theorem Sound.joined (h : Sound c P [ctx]) (hfor : ctx.isFor c.fragId c.msgid = true)
    (hzero : ctx.lastFrag ≠ 0) (hjoin : joinParts ctx.parts ctx.lastFrag ≠ none) :
    c.chunks.length < maxFrags ∧ ctx.lastFrag = c.chunks.length ∧
      ∀ i ∈ c.numbers, P i ∧ ctx.parts i = c.part i := by
  obtain ⟨hparts, hlast⟩ := h ctx List.mem_cons_self hfor
  obtain ⟨hn, hlt⟩ := hlast.resolve_left hzero
  obtain ⟨b, hb⟩ := Option.ne_none_iff_exists'.mp hjoin
  refine ⟨hlt, hn, fun i hi => ?_⟩
  obtain ⟨hpos, hle⟩ := Finset.mem_Icc.mp hi
  have hsome := joinParts_isSome hb hpos (hn ▸ hle)
  rcases hparts i with hnone | ⟨hP, heq⟩
  · rw [hnone] at hsome
    cases hsome
  · have hpart : c.part i = some (c.chunk i) := if_pos ⟨hpos, hle⟩
    exact ⟨hP, heq.trans hpart.symm⟩

/-- one fragment in its context -/
theorem Sound.fragStore (h : Sound c P chain) (hctx : Sound c P [ctx]) (hid : ctx.fragId = c.fragId)
    (hmsgid : ctx.msgid = c.msgid) (hno : no < maxFrags) :
    Sound c (fun i => i = no ∨ P i) (Isakmp.fragStore .none (c.fragment no) no (c.chunk no) ctx chain).1 ∧
      ((Isakmp.fragStore .none (c.fragment no) no (c.chunk no) ctx chain).2.isSome = true →
        c.Ends P no) := by
  have hfor : ctx.isFor c.fragId c.msgid = true := by
    unfold FragItem.isFor
    rw [hid, hmsgid, beq_self_eq_true, beq_self_eq_true]
    rfl
  have hweak : Sound c (fun i => i = no ∨ P i) chain := h.mono fun i hi => .inr hi
  have hdetach : Sound c (fun i => i = no ∨ P i) (detachCtx ctx.fragId ctx.msgid chain) :=
    hweak.subset fun x hx => List.mem_of_mem_eraseP hx
  have hstored := hctx.stored hfor hno
  have hforStored : (c.stored no ctx).isFor c.fragId c.msgid = true := hfor
  cases hpart : ctx.parts no with
  | some part =>
    rw [fragStore_duplicate (by rw [hpart]; rfl)]
    exact ⟨hweak, fun hout => by cases hout⟩
  | none =>
    by_cases hheld : heldOctets (c.stored no ctx).parts (maxFrags - 1) + (c.chunk no).length ≤ maxReasm
    · rw [fragStore_kept hpart hheld]
      split
      · refine ⟨fun x hx hxfor => ?_, fun hout => by cases hout⟩
        rcases mem_replaceCtx hx with rfl | hin
        · exact hstored _ List.mem_cons_self hxfor
        · exact hweak x hin hxfor
      · next hwhole =>
        refine ⟨hdetach, fun hout => ?_⟩
        rw [not_or] at hwhole
        obtain ⟨hlt, hn, hall⟩ := hstored.joined hforStored hwhole.1 hwhole.2
        have heq : ∀ i, 1 ≤ i → i ≤ c.chunks.length → (c.stored no ctx).parts i = c.part i :=
          fun i hpos hle => (hall i (Finset.mem_Icc.mpr ⟨hpos, hle⟩)).2
        have hsize : c.chunks.flatten.length ≤ heldOctets (c.stored no ctx).parts (maxFrags - 1) := by
          rw [← c.heldOctets_all (Nat.le_refl _), ← heldOctets_congr heq]
          exact heldOctets_mono (Nat.le_pred_of_lt hlt)
        have hbody : 0 < c.chunks.flatten.length := by
          have hjoin : joinParts (c.stored no ctx).parts (c.stored no ctx).lastFrag =
              some c.chunks.flatten := by rw [hn, joinParts_congr heq, c.joinParts_all]
          rw [Option.isSome_map, fragsReassemble_join hwhole.1 hjoin] at hout
          by_contra hempty
          rw [if_pos (Nat.eq_zero_of_not_pos hempty)] at hout
          cases hout
        exact ⟨hlt, hbody, by omega, fun i hi => (hall i hi).1⟩
    · rw [fragStore_exceeds hpart (Nat.lt_of_not_le hheld)]
      exact ⟨hdetach, fun hout => by cases hout⟩

theorem Sound.fragRecv (h : Sound c P chain) (hno : no ∈ c.numbers) (now : Nat) :
    Sound c (fun i => i = no ∨ P i) (Isakmp.fragRecv .none now chain (c.fragment no)).1 ∧
      ((Isakmp.fragRecv .none now chain (c.fragment no)).2.isSome = true → c.Ends P no) := by
  obtain ⟨hpos, hle⟩ := Finset.mem_Icc.mp hno
  have hexpire := h.expire now
  by_cases hlt : no < maxFrags
  · rw [fragRecv_fragment c hpos hle hlt]
    unfold fragEnter
    rw [c.packetFragId_fragment, c.messageId_fragment]
    cases hfind : (fragExpire now chain).find? fun ctx => ctx.isFor c.fragId c.msgid with
    | some ctx =>
      have hfor : ctx.isFor c.fragId c.msgid = true := List.find?_some hfind
      have hmem : ctx ∈ fragExpire now chain := List.mem_of_find?_eq_some hfind
      obtain ⟨hid, hmsgid⟩ := (Bool.and_eq_true _ _).mp hfor
      exact hexpire.fragStore (hexpire.subset fun x hx => List.mem_singleton.mp hx ▸ hmem)
        (eq_of_beq hid) (eq_of_beq hmsgid) hlt
    | none =>
      have hnew : Sound c P [⟨c.fragId, c.msgid, 0, now + fragTimeout, fun _ => none⟩] := by
        intro x hx _
        obtain rfl := List.mem_singleton.mp hx
        exact ⟨fun i => .inl rfl, .inl rfl⟩
      have hchain : Sound c P (⟨c.fragId, c.msgid, 0, now + fragTimeout, fun _ => none⟩
          :: fragExpire now chain) := by
        intro x hx
        rcases List.mem_cons.mp hx with rfl | hin
        · exact hnew _ List.mem_cons_self
        · exact hexpire x hin
      exact hchain.fragStore hnew rfl rfl hlt
  · rw [fragRecv_beyond c hle (Nat.le_of_not_lt hlt)]
    exact ⟨hexpire.mono fun i hi => .inr hi, fun hout => by cases hout⟩

/-- a run that returns a message returns it with a fragment that all others were before -/
theorem Sound.fragRun (h : Sound c P chain) {as : List Arrival} (has : ∀ a ∈ as, a.no ∈ c.numbers)
    {m : Bytes} (hm : some m ∈ Isakmp.fragRun c chain as) :
    ∃ front a back, as = front ++ a :: back ∧
      c.Ends (fun i => P i ∨ i ∈ front.map Arrival.no) a.no := by
  induction as generalizing chain P with
  | nil => exact absurd hm List.not_mem_nil
  | cons a as ih =>
    obtain ⟨hsound, hends⟩ := h.fragRecv (has a List.mem_cons_self) a.now
    rcases List.mem_cons.mp hm with heq | hrest
    · obtain ⟨hlt, hbody, hheld, hall⟩ := hends (by rw [← heq]; rfl)
      exact ⟨[], a, as, rfl, hlt, hbody, hheld, fun i hi => (hall i hi).imp_right .inl⟩
    · obtain ⟨front, b, back, hsplit, hlt, hbody, hheld, hall⟩ :=
        ih hsound (fun b hb => has b (List.mem_cons_of_mem _ hb)) hrest
      refine ⟨a :: front, b, back, by rw [hsplit]; rfl, hlt, hbody, hheld, fun i hi => ?_⟩
      rcases hall i hi with hb | (ha | hP) | hfront
      · exact .inl hb
      · exact .inr (.inr (ha ▸ List.mem_cons_self))
      · exact .inr (.inl hP)
      · exact .inr (.inr (List.mem_cons_of_mem _ hfront))

end

/-! ## every order of arrival -/

/-- every fragment arrives at least once, in any order and any number of times: the message comes
back, and nothing else does -/
def Reassembled (c : Cut) : Prop :=
  ∀ (chain : List FragItem) (start : Nat) (as : List Arrival), Fresh c chain → c.Arrives start as →
    (∀ no ∈ c.numbers, ∃ a ∈ as, a.no = no) →
      (∃ m, some m ∈ fragRun c chain as) ∧ ∀ m, some m ∈ fragRun c chain as → m = c.octets

section
variable {c : Cut}

theorem Cut.Fits.reassembled (h : c.Fits) : Reassembled c := by
  intro chain start as hfresh has hall
  have hpos : 0 < c.chunks.length := List.length_pos_iff.mpr c.nonempty
  have hnumbers : ∅ ≠ c.numbers :=
    (Finset.ne_empty_of_mem (Finset.mem_Icc.mpr ⟨hpos, Nat.le_refl _⟩)).symm
  rw [fragRun_eq h as has chain ∅ (.inl ⟨rfl, hfresh⟩) (Finset.empty_subset _) hnumbers]
  constructor
  · refine ⟨c.octets, List.mem_map.mpr ⟨true, ?_, rfl⟩⟩
    refine Collect.report_of_all _ (fun no hno => ?_) ∅ (Finset.empty_subset _) hnumbers fun no hno => ?_
    · obtain ⟨a, ha, heq⟩ := List.mem_map.mp hno
      exact Option.some.inj heq ▸ (has a ha).1
    · obtain ⟨a, ha, rfl⟩ := hall no hno
      exact .inr (List.mem_map.mpr ⟨a, ha, rfl⟩)
  · intro m hm
    obtain ⟨done, _, heq⟩ := List.mem_map.mp hm
    cases done with
    | true => exact (Option.some.inj heq).symm
    | false => cases heq

/-- all fragments but the one with the number `last`, in order -/
def Cut.others (c : Cut) (last : Nat) : List Arrival :=
  ((List.range' 1 c.chunks.length).filter (· != last)).map (⟨·, 0⟩)

theorem Cut.mem_others {last : Nat} {a : Arrival} :
    a ∈ c.others last ↔ a.no ∈ c.numbers ∧ a.no ≠ last ∧ a.now = 0 := by
  have hrange : ∀ no, no ∈ List.range' 1 c.chunks.length ↔ no ∈ c.numbers := by
    intro no
    unfold Cut.numbers
    rw [List.mem_range'_1, Finset.mem_Icc]
    omega
  unfold Cut.others
  rw [List.mem_map]
  constructor
  · rintro ⟨no, hno, rfl⟩
    obtain ⟨hin, hne⟩ := List.mem_filter.mp hno
    exact ⟨(hrange no).mp hin, bne_iff_ne.mp hne, rfl⟩
  · rintro ⟨hin, hne, hnow⟩
    refine ⟨a.no, List.mem_filter.mpr ⟨(hrange _).mpr hin, bne_iff_ne.mpr hne⟩, ?_⟩
    rw [← hnow]

/-- the chunk that comes at the end is counted twice -/
theorem Reassembled.last_within (h : Reassembled c) {last : Nat} (hlast : last ∈ c.numbers) :
    c.chunks.length < maxFrags ∧ 0 < c.chunks.flatten.length ∧
      c.chunks.flatten.length + (c.chunk last).length ≤ maxReasm := by
  have has : ∀ a ∈ c.others last ++ [⟨last, 0⟩], a.no ∈ c.numbers ∧ a.now = 0 := by
    intro a ha
    rcases List.mem_append.mp ha with hin | heq
    · obtain ⟨hno, _, hnow⟩ := Cut.mem_others.mp hin
      exact ⟨hno, hnow⟩
    · rw [List.mem_singleton.mp heq]
      exact ⟨hlast, rfl⟩
  have hevery : ∀ no ∈ c.numbers, ∃ a ∈ c.others last ++ [⟨last, 0⟩], a.no = no := by
    intro no hno
    by_cases heq : no = last
    · exact ⟨⟨last, 0⟩, List.mem_append_right _ List.mem_cons_self, heq.symm⟩
    · exact ⟨⟨no, 0⟩, List.mem_append_left _ (Cut.mem_others.mpr ⟨hno, heq, rfl⟩), rfl⟩
  obtain ⟨⟨m, hm⟩, _⟩ := h [] 0 (c.others last ++ [⟨last, 0⟩]) (fun ctx hctx => absurd hctx List.not_mem_nil)
    (fun a ha => ⟨(has a ha).1, Nat.zero_le _, by rw [(has a ha).2]; exact Nat.zero_le _⟩) hevery
  have hsound : Sound c (fun _ => False) [] := fun ctx hctx => absurd hctx List.not_mem_nil
  obtain ⟨front, a, back, hsplit, hcount, hbody, hheld, hall⟩ :=
    hsound.fragRun (fun a ha => (has a ha).1) hm
  -- the message can only come with the last arrival
  rcases List.eq_nil_or_concat back with rfl | ⟨back', b, rfl⟩
  · obtain ⟨_, hend⟩ := List.append_inj' hsplit rfl
    obtain rfl := List.singleton_inj.mp hend
    exact ⟨hcount, hbody, hheld⟩
  · have hothers : c.others last = front ++ a :: back' := by
      rw [List.concat_eq_append, ← List.cons_append, ← List.append_assoc] at hsplit
      exact (List.append_inj' hsplit rfl).1
    have hout : ∀ x ∈ front ++ [a], x.no ≠ last := by
      intro x hx
      refine (Cut.mem_others.mp (?_ : x ∈ c.others last)).2.1
      rw [hothers]
      rcases List.mem_append.mp hx with hf | ha
      · exact List.mem_append_left _ hf
      · exact List.mem_append_right _ (List.mem_singleton.mp ha ▸ List.mem_cons_self)
    rcases hall last hlast with heq | hfalse | hfront
    · exact absurd heq.symm (hout a (List.mem_append_right _ List.mem_cons_self))
    · exact absurd hfalse id
    · obtain ⟨x, hx, heq⟩ := List.mem_map.mp hfront
      exact absurd heq (hout x (List.mem_append_left _ hx))

theorem Reassembled.fits (h : Reassembled c) : c.Fits := by
  have hpos : 0 < c.chunks.length := List.length_pos_iff.mpr c.nonempty
  obtain ⟨hcount, hbody, _⟩ := h.last_within (Finset.mem_Icc.mpr ⟨hpos, Nat.le_refl _⟩)
  refine ⟨hcount, hbody, fun ch hch => ?_⟩
  obtain ⟨k, hk, rfl⟩ := List.getElem_of_mem hch
  have hchunk : c.chunk (k + 1) = c.chunks[k] := by
    unfold Cut.chunk
    rw [Nat.add_sub_cancel, List.getElem?_eq_getElem hk]
    rfl
  rw [← hchunk]
  exact (h.last_within (Finset.mem_Icc.mpr ⟨Nat.succ_pos k, hk⟩)).2.2

end

/-- every order of arrival gives the message back if and only if it has fewer than 64 fragments, some
octet behind the header, and no fragment that counted twice exceeds the maximum -/
theorem cut_reassembled_iff (c : Cut) :
    Reassembled c ↔ c.chunks.length < maxFrags ∧ 0 < c.chunks.flatten.length ∧
      ∀ ch ∈ c.chunks, c.chunks.flatten.length + ch.length ≤ maxReasm :=
  ⟨Reassembled.fits, Cut.Fits.reassembled⟩

theorem flatten_pair_length (a b : Bytes) : [a, b].flatten.length = a.length + b.length := by
  rw [List.flatten_cons, List.flatten_cons, List.flatten_nil, List.append_nil, List.length_append]

/-- a message of 60028 octets in two fragments -/
def twoHalves : Cut where
  spis := ⟨List.replicate 16 3, rfl⟩
  np := 1
  mid := ⟨[0x10, 2, 0, 0, 0, 0, 0], rfl⟩
  fragId := 1
  chunks := [List.replicate 30000 7, List.replicate 30000 9]
  nonempty := List.cons_ne_nil _ _
  count := by decide
  size := by
    rw [flatten_pair_length, List.length_replicate, List.length_replicate]
    decide

/-- both are refused in any order: 60000 octets are held, and the second 30000 are added once more -/
theorem halves_not_reassembled :
    headerSize + twoHalves.chunks.flatten.length ≤ maxReasm ∧ ¬ Reassembled twoHalves := by
  refine ⟨twoHalves.size, fun h => ?_⟩
  have htwice := h.fits.2.2 (List.replicate 30000 7) List.mem_cons_self
  have hlen : twoHalves.chunks.flatten.length = 30000 + 30000 := by
    show [List.replicate 30000 7, List.replicate 30000 9].flatten.length = _
    rw [flatten_pair_length, List.length_replicate, List.length_replicate]
  rw [hlen, List.length_replicate] at htwice
  exact absurd htwice (by decide)

end Isakmp
