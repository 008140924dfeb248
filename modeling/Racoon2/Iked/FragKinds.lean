import Racoon2.Iked.FragChain

/-!
# Where the parts of a packet come from

An assembly is found by its message id alone, and a request of the peer and a response of the peer
may have the same one.  The trace of a run says which fragment each stored part was taken from.

* `Traced.Inv`           every part is traced, and the parts of an assembly are of one kind;
* `Apart`                what a delivery may do;
* `fragments_apart`      every run in which fragments of two kinds do not meet under one message id.
-/

set_option linter.unusedVariables false

namespace Ikev2
open Bytes

/-! ## traced runs -/

/-- a fragment that reaches `ikev2_frag_recv` -/
structure FragDelivery where
  now : Nat
  sa : Sa
  packet : Bytes

/-- the queue; and for a message id and a number, the last fragment that entered it and what that
opened to -/
structure Traced where
  chain : List FragItem
  source : Nat → Nat → Option (Bytes × Bytes)

/-- `ikev2_frag_recv` on the queue -/
def Traced.recv (t : Traced) (d : FragDelivery) : List FragItem × Option Bytes :=
  fragRecv d.now { d.sa with fragChain := t.chain } d.packet

/-- the trace after a delivery -/
def Traced.sourceAfter (t : Traced) (d : FragDelivery) : Nat → Nat → Option (Bytes × Bytes) :=
  match fragAccepts d.sa d.packet with
  | none => t.source
  | some data =>
    if fragExpected (fragExpire d.now t.chain) d.packet then fun m i =>
      if m = messageId d.packet ∧ i = skfNumber d.packet then some (d.packet, data)
      else t.source m i
    else t.source

def Traced.step (t : Traced) (d : FragDelivery) : Traced := ⟨(t.recv d).1, t.sourceAfter d⟩

def Traced.empty : Traced := ⟨[], fun _ _ => none⟩

/-- the same direction and the same exchange -/
def sameKind (a b : Bytes) : Prop := isResponse a = isResponse b ∧ exchangeType a = exchangeType b

instance (a b : Bytes) : Decidable (sameKind a b) :=
  inferInstanceAs (Decidable (isResponse a = isResponse b ∧ exchangeType a = exchangeType b))

/-- the fragments behind the stored parts of an assembly -/
def Traced.holds (t : Traced) (item : FragItem) (q : Bytes) : Prop :=
  ∃ i data, item.parts i = some data ∧ t.source item.msgid i = some (q, data)

/-- an authentic fragment meets fragments of its own kind only -/
def Traced.separate (t : Traced) (d : FragDelivery) : Prop :=
  (fragAccepts d.sa d.packet).isSome → ∀ item,
    findAssembly (fragExpire d.now t.chain) (messageId d.packet) = some item →
      ∀ q, t.holds item q → sameKind q d.packet

structure Traced.Inv (t : Traced) : Prop where
  consistent : ChainInv t.chain
  traced : ∀ item ∈ t.chain, ∀ i data, item.parts i = some data →
    ∃ q, t.source item.msgid i = some (q, data) ∧ messageId q = item.msgid
  alike : ∀ item ∈ t.chain, ∀ q r, t.holds item q → t.holds item r → sameKind q r

/-- the packet is made of `n` fragments with its message id, its direction and its exchange type -/
structure OneMessage (source : Nat → Nat → Option (Bytes × Bytes)) (pkt : Bytes) (n : Nat) : Prop where
  fragments : ∀ i, 1 ≤ i → i ≤ n → ∃ q data, source (messageId pkt) i = some (q, data)
    ∧ messageId q = messageId pkt ∧ sameKind q pkt
  payloads : mergeParts (fun i => (source (messageId pkt) i).map Prod.snd) n
    = some (pkt.drop headerSize)

/-- fragments of two kinds are not joined and do not make each other be dropped -/
structure Traced.Apart (t : Traced) (d : FragDelivery) : Prop where
  joined : ∀ pkt, (t.recv d).2 = some pkt → OneMessage (t.sourceAfter d) pkt (skfTotal d.packet)
  arriving : ∀ data, fragAccepts d.sa d.packet = some data → data.length ≤ maxReasm →
    (∀ item, findAssembly (fragExpire d.now t.chain) (messageId d.packet) = some item →
      ∀ q, t.holds item q → ¬ sameKind q d.packet) →
    (t.recv d).2.isSome ∨ ∃ item, findAssembly (t.recv d).1 (messageId d.packet) = some item
      ∧ item.parts (skfNumber d.packet) = some data
  queued : (fragAccepts d.sa d.packet).isSome → ∀ item,
    findAssembly (fragExpire d.now t.chain) (messageId d.packet) = some item →
      ∀ q, t.holds item q → ¬ sameKind q d.packet → item ∈ (t.recv d).1

/-! ## the parts after a delivery -/

/-- part `i` with data `x` was in the assembly for message `m` -/
def heldBefore (chain : List FragItem) (m i : Nat) (x : Bytes) : Prop :=
  ∃ old, findAssembly chain m = some old ∧ old.parts i = some x

section
variable {now : Nat} {chain : List FragItem} {packet data x : Bytes} {i : Nat}

theorem fragContext_parts {m total : Nat}
    (h : (fragContext now chain m total).2.parts i = some x) : heldBefore chain m i x := by
  cases hfind : findAssembly chain m with
  | none =>
    rw [fragContext_none hfind] at h
    exact absurd h (by simp [FragItem.fresh])
  | some old =>
    rw [fragContext_some hfind] at h
    refine ⟨old, hfind, ?_⟩
    simp only at h
    split at h
    · have hpart : (if 1 ≤ i ∧ i ≤ old.totalFragments then none else old.parts i) = some x := h
      split at hpart
      · exact absurd hpart (by simp)
      · exact hpart
    · exact h

theorem entered_parts (h : (entered now chain packet data).parts i = some x) :
    i = skfNumber packet ∧ x = data
      ∨ i ≠ skfNumber packet ∧ heldBefore chain (messageId packet) i x := by
  have hpart : (if i = skfNumber packet then some data
      else (fragContext now chain (messageId packet) (skfTotal packet)).2.parts i) = some x := h
  by_cases hi : i = skfNumber packet
  · rw [if_pos hi] at hpart
    exact .inl ⟨hi, (Option.some.inj hpart).symm⟩
  · rw [if_neg hi] at hpart
    exact .inr ⟨hi, fragContext_parts hpart⟩

/-- an assembly after a delivery: one of another message, or the parts of this message that were
there with the new one -/
theorem FragOutcome.items {r : List FragItem × Option Bytes} {sa : Sa} (h : ChainInv chain)
    (hexp : fragExpected chain packet = true) (haccept : fragAccepts sa packet = some data)
    (hout : FragOutcome now chain packet data r) : ∀ item ∈ r.1,
      item ∈ chain ∧ item.msgid ≠ messageId packet
        ∨ item.msgid = messageId packet ∧ ∀ i x, item.parts i = some x →
          i = skfNumber packet ∧ x = data
            ∨ i ≠ skfNumber packet ∧ heldBefore chain (messageId packet) i x := by
  obtain ⟨hpos, hno, htotal⟩ := fragAccepts_number haccept
  obtain ⟨hctx, hid, htot, hacc, hfree⟩ := fragContext_spec now h hexp htotal
  -- what a context without the new part holds
  have hold : ∀ i x, (fragContext now chain (messageId packet) (skfTotal packet)).2.parts i
      = some x → i = skfNumber packet ∧ x = data
        ∨ i ≠ skfNumber packet ∧ heldBefore chain (messageId packet) i x := by
    intro i x hpart
    refine .inr ⟨?_, fragContext_parts hpart⟩
    intro heq
    rw [heq, hfree] at hpart
    exact absurd hpart (by simp)
  intro item hmem
  cases hout with
  | evicted hnone =>
    have hin := (fragEvict_sublist chain).subset hmem
    exact .inl ⟨hin, Keyed.find_eq_none.mp hnone item hin⟩
  | settled np =>
    unfold fragSettle at hmem
    simp only at hmem
    split at hmem
    · obtain ⟨hin, hne⟩ := Keyed.mem_remove hmem
      rw [hid] at hne
      exact .inl ⟨hctx.others item hin hne, hne⟩
    · rcases Keyed.mem_replace hmem with rfl | ⟨hin, hne⟩
      · exact .inr ⟨hid, hold⟩
      · have hne' : item.msgid ≠ messageId packet := fun heq => hne (heq.trans hid.symm)
        exact .inl ⟨hctx.others item hin hne', hne'⟩
  | waiting hlen =>
    rcases Keyed.mem_replace hmem with rfl | ⟨hin, hne⟩
    · exact .inr ⟨hid, fun i x hpart => entered_parts hpart⟩
    · have hne' : item.msgid ≠ messageId packet := fun heq => hne (heq.trans hid.symm)
      exact .inl ⟨hctx.others item hin hne', hne'⟩
  | returned merged hmerge =>
    obtain ⟨hin, hne⟩ := Keyed.mem_remove hmem
    exact .inl ⟨hctx.others item hin hne, hne⟩

end

section
variable {parts parts' : Nat → Option Bytes}

theorem mergeParts_congr (n : Nat) (h : ∀ i, 1 ≤ i → i ≤ n → parts i = parts' i) :
    mergeParts parts n = mergeParts parts' n := by
  induction n with
  | zero => rfl
  | succ n ih =>
    rw [mergeParts, mergeParts, ih fun i hpos hle => h i hpos (by omega),
      h (n + 1) (by omega) (Nat.le_refl _)]

/-- all parts of a merged packet are there -/
theorem mergeParts_present (n : Nat) : ∀ {merged : Bytes}, mergeParts parts n = some merged →
    ∀ i, 1 ≤ i → i ≤ n → ∃ x, parts i = some x := by
  induction n with
  | zero =>
    intro merged h i hpos hle
    omega
  | succ n ih =>
    intro merged h i hpos hle
    rw [mergeParts] at h
    split at h
    · rename_i front last hfront hlast
      by_cases hi : i = n + 1
      · exact ⟨last, hi ▸ hlast⟩
      · exact ih hfront i hpos (by omega)
    · exact absurd h (by simp)

end

theorem reassembled_drop {packet : Bytes} (hlen : headerSize ≤ packet.length) (np : UInt8)
    (merged : Bytes) : (reassembled packet np merged).drop headerSize = merged := by
  have h28 : headerSize = 28 := rfl
  have hfront : (put (packet.take headerSize) 16 [np]).length = headerSize := by
    have htake : (packet.take headerSize).length = headerSize := List.length_take_of_le hlen
    rw [put_length, htake]
    rw [htake]
    exact Nat.le_of_ble_eq_true rfl
  unfold reassembled putLength
  show (put _ 24 (enc32 _)).drop (24 + (enc32 (headerSize + merged.length)).length) = merged
  rw [put_drop]
  · exact List.drop_left' hfront
  · rw [List.length_append]
    omega

theorem fragAccepts_length {sa : Sa} {packet data : Bytes}
    (h : fragAccepts sa packet = some data) : headerSize ≤ packet.length := by
  unfold fragAccepts at h
  split at h
  · exact absurd h (by simp)
  · omega

theorem sameKind.trans {a b c : Bytes} (h1 : sameKind a b) (h2 : sameKind b c) : sameKind a c :=
  ⟨h1.1.trans h2.1, h1.2.trans h2.2⟩

theorem sameKind.symm {a b : Bytes} (h : sameKind a b) : sameKind b a := ⟨h.1.symm, h.2.symm⟩

/-! ## one delivery -/

section
variable {t : Traced} {d : FragDelivery} {data : Bytes}

theorem Traced.Inv.expire (h : t.Inv) (now : Nat) : Traced.Inv ⟨fragExpire now t.chain, t.source⟩ where
  consistent := h.consistent.expire now
  traced := fun item hmem => h.traced item (List.mem_filter.mp hmem).1
  alike := fun item hmem => h.alike item (List.mem_filter.mp hmem).1

/-- an accepted fragment that is expected enters the trace -/
theorem Traced.sourceAfter_eq (haccept : fragAccepts d.sa d.packet = some data)
    (hexp : fragExpected (fragExpire d.now t.chain) d.packet = true) (m i : Nat) :
    t.sourceAfter d m i = if m = messageId d.packet ∧ i = skfNumber d.packet
      then some (d.packet, data) else t.source m i := by
  unfold Traced.sourceAfter
  rw [haccept]
  simp only
  rw [if_pos hexp]

theorem Traced.sourceAfter_new (haccept : fragAccepts d.sa d.packet = some data)
    (hexp : fragExpected (fragExpire d.now t.chain) d.packet = true) :
    t.sourceAfter d (messageId d.packet) (skfNumber d.packet) = some (d.packet, data) := by
  rw [Traced.sourceAfter_eq haccept hexp, if_pos ⟨rfl, rfl⟩]

theorem Traced.sourceAfter_old (haccept : fragAccepts d.sa d.packet = some data)
    (hexp : fragExpected (fragExpire d.now t.chain) d.packet = true) {m i : Nat}
    (hne : m ≠ messageId d.packet ∨ i ≠ skfNumber d.packet) :
    t.sourceAfter d m i = t.source m i := by
  rw [Traced.sourceAfter_eq haccept hexp, if_neg]
  intro heq
  exact hne.elim (fun h => h heq.1) (fun h => h heq.2)

/-- a part that was there before, with its fragment -/
theorem Traced.Inv.held (h : t.Inv) (hsep : t.separate d)
    (haccept : fragAccepts d.sa d.packet = some data) {i : Nat} {x : Bytes}
    (hheld : heldBefore (fragExpire d.now t.chain) (messageId d.packet) i x) :
    ∃ q, t.source (messageId d.packet) i = some (q, x) ∧ messageId q = messageId d.packet
      ∧ sameKind q d.packet := by
  obtain ⟨old, hfind, hpart⟩ := hheld
  obtain ⟨hmem, hid⟩ := Keyed.mem_of_find hfind
  have hid' : old.msgid = messageId d.packet := hid
  obtain ⟨q, hsource, hq⟩ := (h.expire d.now).traced old hmem i x hpart
  have hkind := hsep (by rw [haccept]; rfl) old hfind q ⟨i, x, hpart, hsource⟩
  rw [hid'] at hsource hq
  exact ⟨q, hsource, hq, hkind⟩

/-- a part of the message after the delivery, with its fragment -/
theorem Traced.Inv.part_after (h : t.Inv) (hsep : t.separate d)
    (haccept : fragAccepts d.sa d.packet = some data)
    (hexp : fragExpected (fragExpire d.now t.chain) d.packet = true) {i : Nat} {x : Bytes}
    (hpart : i = skfNumber d.packet ∧ x = data
      ∨ i ≠ skfNumber d.packet
        ∧ heldBefore (fragExpire d.now t.chain) (messageId d.packet) i x) :
    ∃ q, t.sourceAfter d (messageId d.packet) i = some (q, x)
      ∧ messageId q = messageId d.packet ∧ sameKind q d.packet := by
  rcases hpart with ⟨rfl, rfl⟩ | ⟨hne, hheld⟩
  · exact ⟨d.packet, Traced.sourceAfter_new haccept hexp, rfl, rfl, rfl⟩
  · rw [Traced.sourceAfter_old haccept hexp (.inr hne)]
    exact h.held hsep haccept hheld

theorem Traced.recv_eq (h : ChainInv t.chain) :
    t.recv d = fragRecvAlloc .never d.now d.sa t.chain d.packet := (fragRecvAlloc_never h).symm

theorem Traced.sourceAfter_dropped
    (h : (fragAccepts d.sa d.packet).isSome →
      fragExpected (fragExpire d.now t.chain) d.packet = true → AllocFail.never = .early) :
    t.sourceAfter d = t.source := by
  unfold Traced.sourceAfter
  cases haccept : fragAccepts d.sa d.packet with
  | none => rfl
  | some data =>
    rw [haccept] at h
    exact if_neg fun hexp => AllocFail.noConfusion (h rfl hexp)

/-- the step -/
theorem Traced.Inv.step (t : Traced) (d : FragDelivery) (h : t.Inv) (hsep : t.separate d) :
    (t.step d).Inv := by
  have hrecv := @Traced.recv_eq t d h.consistent
  rcases @recv_cases .never d.now d.sa t.chain d.packet h.consistent AllocFail.noConfusion with
    ⟨hnot, hdrop⟩ | ⟨data, haccept, hexp, hout⟩
  · have hstep : t.step d = ⟨fragExpire d.now t.chain, t.source⟩ := by
      unfold Traced.step
      rw [hrecv, hdrop, Traced.sourceAfter_dropped hnot]
    rw [hstep]
    exact h.expire d.now
  · rw [← hrecv] at hout
    have hitems := hout.items (h.consistent.expire d.now) hexp haccept
    -- the assembly of this message, traced
    have hown : ∀ item : FragItem, item.msgid = messageId d.packet →
        (∀ i x, item.parts i = some x → i = skfNumber d.packet ∧ x = data
          ∨ i ≠ skfNumber d.packet
            ∧ heldBefore (fragExpire d.now t.chain) (messageId d.packet) i x) →
        ∀ i x, item.parts i = some x → ∃ q, t.sourceAfter d item.msgid i = some (q, x)
          ∧ messageId q = item.msgid ∧ sameKind q d.packet := by
      intro item hid hparts i x hpart
      rw [hid]
      exact h.part_after hsep haccept hexp (hparts i x hpart)
    refine ⟨hout.inv (h.consistent.expire d.now) hexp haccept, ?_, ?_⟩
    · intro item hmem i x hpart
      rcases hitems item hmem with ⟨hin, hne⟩ | ⟨hid, hparts⟩
      · show ∃ q, t.sourceAfter d item.msgid i = some (q, x) ∧ messageId q = item.msgid
        rw [Traced.sourceAfter_old haccept hexp (.inl hne)]
        exact (h.expire d.now).traced item hin i x hpart
      · obtain ⟨q, hsource, hq, -⟩ := hown item hid hparts i x hpart
        exact ⟨q, hsource, hq⟩
    · intro item hmem q r hq hr
      rcases hitems item hmem with ⟨hin, hne⟩ | ⟨hid, hparts⟩
      · have hback : ∀ q, (t.step d).holds item q →
            Traced.holds ⟨fragExpire d.now t.chain, t.source⟩ item q := by
          intro q hq
          obtain ⟨i, x, hpart, hsource⟩ := hq
          refine ⟨i, x, hpart, ?_⟩
          rw [← hsource]
          exact (Traced.sourceAfter_old haccept hexp (.inl hne)).symm
        exact (h.expire d.now).alike item hin q r (hback q hq) (hback r hr)
      · have hkind : ∀ q, (t.step d).holds item q → sameKind q d.packet := by
          intro q hq
          obtain ⟨i, x, hpart, hsource⟩ := hq
          obtain ⟨q', hsource', -, hkind⟩ := hown item hid hparts i x hpart
          have heq := (Prod.mk.inj (Option.some.inj (hsource.symm.trans hsource'))).1
          rw [heq]
          exact hkind
        exact (hkind q hq).trans (hkind r hr).symm

theorem FragOutcome.packet {now : Nat} {chain : List FragItem} {packet data pkt : Bytes}
    {r : List FragItem × Option Bytes} (hout : FragOutcome now chain packet data r)
    (hpkt : r.2 = some pkt) :
    ∃ np merged, mergeParts (entered now chain packet data).parts (skfTotal packet) = some merged
      ∧ pkt = reassembled packet np merged := by
  cases hout with
  | evicted hnone => exact absurd hpkt (by simp)
  | settled np => exact absurd hpkt (by simp)
  | waiting hlen => exact absurd hpkt (by simp)
  | returned merged hmerge => exact ⟨_, merged, hmerge, (Option.some.inj hpkt).symm⟩

/-- what is returned comes from fragments of one kind -/
theorem Traced.Inv.joined (h : t.Inv) (hsep : t.separate d) {pkt : Bytes}
    (hpkt : (t.recv d).2 = some pkt) : OneMessage (t.sourceAfter d) pkt (skfTotal d.packet) := by
  rw [Traced.recv_eq h.consistent] at hpkt
  rcases @recv_cases .never d.now d.sa t.chain d.packet h.consistent AllocFail.noConfusion with
    ⟨-, hdrop⟩ | ⟨data, haccept, hexp, hout⟩
  · rw [hdrop] at hpkt
    exact absurd hpkt (by simp)
  · obtain ⟨np, merged, hmerge, rfl⟩ := hout.packet hpkt
    have hlen := fragAccepts_length haccept
    obtain ⟨htype, hresponse, hid⟩ := reassembled_sameHeader hlen np merged
    have hpart : ∀ i, 1 ≤ i → i ≤ skfTotal d.packet → ∃ q x,
        (entered d.now (fragExpire d.now t.chain) d.packet data).parts i = some x
          ∧ t.sourceAfter d (messageId d.packet) i = some (q, x)
          ∧ messageId q = messageId d.packet ∧ sameKind q d.packet := by
      intro i hpos hle
      obtain ⟨x, hx⟩ := mergeParts_present _ hmerge i hpos hle
      obtain ⟨q, hq⟩ := h.part_after hsep haccept hexp (entered_parts hx)
      exact ⟨q, x, hx, hq⟩
    constructor
    · intro i hpos hle
      obtain ⟨q, x, -, hsource, hq, hkind⟩ := hpart i hpos hle
      rw [hid]
      exact ⟨q, x, hsource, hq, hkind.1.trans hresponse.symm, hkind.2.trans htype.symm⟩
    · rw [hid, reassembled_drop hlen, ← hmerge]
      apply mergeParts_congr
      intro i hpos hle
      obtain ⟨q, x, hx, hsource, -⟩ := hpart i hpos hle
      rw [hsource, hx]
      rfl

theorem fragComplete_waiting {chain : List FragItem} {packet : Bytes} {item : FragItem}
    (h : item.numReceived < item.totalFragments) :
    fragComplete chain packet item = (replaceAssembly chain item, none) := by
  unfold fragComplete
  rw [if_pos h]

/-- the first fragment of a message is stored, or is the whole message -/
theorem fragStore_first {now : Nat} {chain : List FragItem} {packet : Bytes}
    (hnone : findAssembly chain (messageId packet) = none) (hlen : data.length ≤ maxReasm)
    (hpos : 1 ≤ skfNumber packet) (hno : skfNumber packet ≤ skfTotal packet) :
    (fragStore now chain packet data).2.isSome
      ∨ ∃ item, findAssembly (fragStore now chain packet data).1 (messageId packet) = some item
        ∧ item.parts (skfNumber packet) = some data := by
  unfold fragStore
  rw [fragContext_none hnone]
  simp only
  have hfits : ¬ maxReasm < (FragItem.fresh (messageId packet) (skfTotal packet) now).totalDataLen
      + data.length := by
    show ¬ maxReasm < 0 + data.length
    omega
  rw [if_neg hfits]
  by_cases hmore : 1 < skfTotal packet
  · right
    have hwait : ((FragItem.fresh (messageId packet) (skfTotal packet) now).insert
        (skfNumber packet) (byteAt packet 28) data).numReceived
        < ((FragItem.fresh (messageId packet) (skfTotal packet) now).insert
          (skfNumber packet) (byteAt packet 28) data).totalFragments := hmore
    rw [fragComplete_waiting hwait]
    refine ⟨(FragItem.fresh (messageId packet) (skfTotal packet) now).insert (skfNumber packet)
      (byteAt packet 28) data, ?_, if_pos rfl⟩
    have hgone : Keyed.find FragItem.msgid (fragEvict chain) (messageId packet) = none := by
      rw [Keyed.find_eq_none]
      intro i hi
      exact Keyed.find_eq_none.mp hnone i ((fragEvict_sublist chain).subset hi)
    show Keyed.find FragItem.msgid (Keyed.replace FragItem.msgid _ _) (messageId packet) = _
    rw [Keyed.replace_append hgone rfl rfl, Keyed.find_append, hgone]
    exact if_pos rfl
  · left
    have htotal : skfTotal packet = 1 := by omega
    have hone : skfNumber packet = 1 := by omega
    rw [htotal, hone]
    rfl

/-- fragments of two kinds that do not meet are not joined and do not drop each other -/
theorem Traced.Inv.apart (h : t.Inv) (hsep : t.separate d) : t.Apart d where
  joined := fun pkt hpkt => h.joined hsep hpkt
  arriving := by
    intro data haccept hlen hother
    obtain ⟨hpos, hno, htotal⟩ := fragAccepts_number haccept
    have hnone : findAssembly (fragExpire d.now t.chain) (messageId d.packet) = none := by
      cases hfind : findAssembly (fragExpire d.now t.chain) (messageId d.packet) with
      | none => rfl
      | some item =>
        -- an assembly has a part, and it is of this kind
        obtain ⟨hmem, -⟩ := Keyed.mem_of_find hfind
        obtain ⟨i, hi⟩ := (h.consistent.expire d.now).nonempty item hmem
        obtain ⟨x, hx⟩ := Option.isSome_iff_exists.mp (FragItem.mem_stored.mp hi).2
        obtain ⟨q, hsource, -⟩ := (h.expire d.now).traced item hmem i x hx
        have hkind := hsep (by rw [haccept]; rfl) item hfind q ⟨i, x, hx, hsource⟩
        exact absurd hkind (hother item hfind q ⟨i, x, hx, hsource⟩)
    have hexp : fragExpected (fragExpire d.now t.chain) d.packet = true := by
      unfold fragExpected
      rw [hnone]
    have hrecv : t.recv d = fragStore d.now (fragExpire d.now t.chain) d.packet data := by
      rw [Traced.recv_eq h.consistent, fragRecvAlloc_eq, haccept, hexp]
      exact fragEnter_never (h.consistent.expire d.now) hexp haccept
    rw [hrecv]
    exact fragStore_first hnone hlen hpos hno
  queued := fun hsome item hfind q hq hother => absurd (hsep hsome item hfind q hq) hother

end

/-! ## runs -/

theorem Traced.empty_inv : Traced.empty.Inv where
  consistent := chainInv_nil
  traced := fun item hmem => absurd hmem List.not_mem_nil
  alike := fun item hmem => absurd hmem List.not_mem_nil

/-- In every run of fragments in which none meets, under its message id, fragments of another kind,
every packet that is returned is made of fragments of one message id, direction and exchange type,
and fragments of two kinds never drop each other. -/
theorem fragments_apart (ds : List FragDelivery)
    (hsep : Run.Meets Traced.step Traced.separate Traced.empty ds) :
    ∀ t ∈ Run.states Traced.step Traced.empty ds, t.Inv ∧ ∀ d, t.separate d → t.Apart d := by
  intro t hmem
  have hinv := Run.states_inv Traced.Inv.step ds Traced.empty Traced.empty_inv hsep t hmem
  exact ⟨hinv, fun d hd => hinv.apart hd⟩

/-- fragment `no` of two of a message with id 3 -/
def halfOf (flags : UInt8) (no : Nat) : FragDelivery :=
  ⟨0, tagSa false, tagFragment exchInformational flags 3 no 2 [1]⟩

theorem first_separate (t : Traced) (hnil : t.chain = []) (d : FragDelivery) : t.separate d := by
  intro _ item hfind
  rw [hnil] at hfind
  exact absurd hfind (by simp [fragExpire, findAssembly])

theorem source_first {d : FragDelivery} {m i : Nat} {q x : Bytes}
    (h : (Traced.empty.step d).source m i = some (q, x)) : q = d.packet := by
  have hsource : Traced.empty.sourceAfter d m i = some (q, x) := h
  unfold Traced.sourceAfter at hsource
  cases haccept : fragAccepts d.sa d.packet with
  | none =>
    rw [haccept] at hsource
    exact absurd hsource (by simp [Traced.empty])
  | some data =>
    rw [haccept] at hsource
    simp only at hsource
    split at hsource
    · simp only at hsource
      split at hsource
      · exact (Prod.mk.inj (Option.some.inj hsource)).1.symm
      · exact absurd hsource (by simp [Traced.empty])
    · exact absurd hsource (by simp [Traced.empty])

/-- both halves of a request -/
theorem fragments_apart_request :
    ∃ t ∈ Run.states Traced.step Traced.empty [halfOf flagInitiator 1],
      t.chain.length = 1 ∧ t.Apart (halfOf flagInitiator 2) := by
  have hmem : Traced.empty.step (halfOf flagInitiator 1)
      ∈ Run.states Traced.step Traced.empty [halfOf flagInitiator 1] :=
    List.mem_cons_of_mem _ (List.mem_singleton_self _)
  have hsep : (Traced.empty.step (halfOf flagInitiator 1)).separate (halfOf flagInitiator 2) := by
    intro _ item _ q hq
    obtain ⟨i, x, -, hsource⟩ := hq
    rw [source_first hsource]
    exact ⟨by decide, by decide⟩
  have hapart := fragments_apart [halfOf flagInitiator 1]
    ⟨first_separate _ rfl _, trivial⟩ _ hmem
  exact ⟨_, hmem, by decide +kernel, hapart.2 _ hsep⟩

/-- half a request and half a response are joined -/
theorem fragments_joined :
    ∃ t ∈ Run.states Traced.step Traced.empty [halfOf flagInitiator 1],
      ∃ pkt, (t.recv (halfOf (flagInitiator ||| flagResponse) 2)).2 = some pkt
        ∧ ¬ OneMessage (t.sourceAfter (halfOf (flagInitiator ||| flagResponse) 2)) pkt 2 := by
  refine ⟨_, List.mem_cons_of_mem _ (List.mem_singleton_self _), ?_⟩
  have hrun : ((Traced.empty.step (halfOf flagInitiator 1)).recv
      (halfOf (flagInitiator ||| flagResponse) 2)).2.any (fun pkt =>
        ((Traced.empty.step (halfOf flagInitiator 1)).sourceAfter
          (halfOf (flagInitiator ||| flagResponse) 2) (messageId pkt) 1).all fun q =>
            isResponse q.1 != isResponse pkt) = true := by decide +kernel
  obtain ⟨pkt, hpkt, hkind⟩ := (Option.any_eq_true _ _).mp hrun
  refine ⟨pkt, hpkt, fun hone => ?_⟩
  obtain ⟨q, x, hsource, -, hsame⟩ := hone.fragments 1 (Nat.le_refl 1) (by decide)
  rw [hsource] at hkind
  exact bne_iff_ne.mp hkind hsame.1

end Ikev2
