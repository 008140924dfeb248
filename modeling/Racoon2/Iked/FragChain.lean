import Racoon2.Iked.FragSend
import Racoon2.Lib.Keyed
import Racoon2.Lib.Run

/-!
# The queue of fragments

`ikev2_frag_recv` with every exit of its own, an allocation that fails included, `ikev2_frag_expire`
and `ikev2_frag_purge`, over runs of calls.  The assemblies are looked up by message id: a table with
distinct keys (`Keyed`).

* `ChainInv`               the queue is consistent;
* `recv_cases`             what a call can do to the queue (the step);
* `fragRecvAlloc_never`    without failures it is `fragRecv`;
* `chain_consistent`       every run of calls keeps the queue consistent.
-/

set_option linter.unusedVariables false

namespace Ikev2
open Bytes

/-! ## `ikev2_frag_recv` with its allocations -/

/-- the allocation of a call that fails: one before the fragment is open, that of the context, of
the chunk, of the merged payloads, of the packet -/
inductive AllocFail where
  | never
  | early
  | item
  | chunk
  | merged
  | packet
  deriving DecidableEq, Repr

/-- room for one more assembly -/
def fragEvict (chain : List FragItem) : List FragItem :=
  if maxAssemblies ≤ chain.length then chain.drop (chain.length - (maxAssemblies - 1)) else chain

/-- part `no` is freed again -/
def FragItem.dropPart (item : FragItem) (no dataLen : Nat) : FragItem :=
  { item with
    parts := fun i => if i = no then none else item.parts i
    numReceived := item.numReceived - 1
    totalDataLen := item.totalDataLen - dataLen }

/-- a context without parts goes -/
def fragSettle (chain : List FragItem) (item : FragItem) : List FragItem :=
  if item.numReceived = 0 then removeAssembly chain item.msgid else replaceAssembly chain item

/-- the label `fail`, with a context -/
def fragFail (chain : List FragItem) (item : FragItem) (no dataLen : Nat) : List FragItem :=
  fragSettle chain (if no ≤ item.totalFragments ∧ (item.parts no).isSome
    then item.dropPart no dataLen else item)

/-- the chunk of fragment `no`, unless its slot is filled -/
def FragItem.store (item : FragItem) (no : Nat) (np : UInt8) (data : Bytes) : FragItem :=
  if (item.parts no).isSome then
    { item with nextPayload := if no = 1 then np else item.nextPayload }
  else item.insert no np data

/-- the parts `1 .. n` are freed -/
def FragItem.freeParts (item : FragItem) (n : Nat) : FragItem :=
  { item with parts := fun i => if 1 ≤ i ∧ i ≤ n then none else item.parts i }

/-- how many parts the merging loop takes before one is missing -/
def leadingParts (parts : Nat → Option Bytes) (n : Nat) : Nat :=
  ((List.range' 1 n).takeWhile fun i => (parts i).isSome).length

/-- wait for more, or merge -/
def fragMerge (fail : AllocFail) (chain : List FragItem) (packet : Bytes) (item : FragItem)
    (dataLen : Nat) : List FragItem × Option Bytes :=
  if item.numReceived < item.totalFragments then (replaceAssembly chain item, none)
  else
    let np := item.nextPayload
    let item := { item with nextPayload := 0 }
    if fail = .merged then (fragFail chain item (skfNumber packet) dataLen, none)
    else match mergeParts item.parts item.totalFragments with
      | none =>
        (fragFail chain (item.freeParts (leadingParts item.parts item.totalFragments))
          (skfNumber packet) dataLen, none)
      | some merged =>
        if fail = .packet then
          (fragFail chain (item.freeParts item.totalFragments) (skfNumber packet) dataLen, none)
        else (removeAssembly chain item.msgid, some (reassembled packet np merged))

/-- an authentic fragment enters the queue -/
def fragEnter (fail : AllocFail) (now : Nat) (chain : List FragItem) (packet data : Bytes) :
    List FragItem × Option Bytes :=
  if fail = .item ∧ findAssembly chain (messageId packet) = none then (fragEvict chain, none)
  else
    let (chain, item) := fragContext now chain (messageId packet) (skfTotal packet)
    if maxReasm < item.totalDataLen + data.length ∨ fail = .chunk then
      (fragFail chain item (skfNumber packet) data.length, none)
    else
      fragMerge fail chain packet (item.store (skfNumber packet) (byteAt packet 28) data)
        data.length

/-- `ikev2_frag_recv`: the queue after the fragment, and the packet if it is complete -/
def fragRecvAlloc (fail : AllocFail) (now : Nat) (sa : Sa) (chain : List FragItem)
    (packet : Bytes) : List FragItem × Option Bytes :=
  let chain := fragExpire now chain
  if packet.length < headerSize + 8 then (chain, none)
  else match sa.encryptor, sa.authenticator, sa.recvEncKey with
    | some e, some a, some key =>
      if !sa.hasRecvKeys || !fragWellFormed e a packet || !sa.fragSupported
          || !fragExpected chain packet || fail = .early then (chain, none)
      else match fragOpen e a sa.recvAuthKey key packet with
        | none => (chain, none)
        | some data => fragEnter fail now chain packet data
    | _, _, _ => (chain, none)

/-- the tests that look at the SA and the packet only, and what the fragment opens to -/
def fragAccepts (sa : Sa) (packet : Bytes) : Option Bytes :=
  if packet.length < headerSize + 8 then none
  else match sa.encryptor, sa.authenticator, sa.recvEncKey with
    | some e, some a, some key =>
      if !sa.hasRecvKeys || !fragWellFormed e a packet || !sa.fragSupported then none
      else fragOpen e a sa.recvAuthKey key packet
    | _, _, _ => none

section
variable {fail : AllocFail} {now : Nat} {sa : Sa} {chain : List FragItem} {packet data : Bytes}
  {item : FragItem}

theorem fragRecvAlloc_eq :
    fragRecvAlloc fail now sa chain packet = match fragAccepts sa packet with
      | none => (fragExpire now chain, none)
      | some data =>
        if !fragExpected (fragExpire now chain) packet || fail = .early then
          (fragExpire now chain, none)
        else fragEnter fail now (fragExpire now chain) packet data := by
  unfold fragRecvAlloc fragAccepts
  simp only
  split
  · rfl
  · split
    · rename_i e a key he ha hkey
      by_cases hpass : (!sa.hasRecvKeys || !fragWellFormed e a packet || !sa.fragSupported) = true
      · rw [hpass]
        rfl
      · rw [Bool.eq_false_of_not_eq_true hpass]
        simp only [Bool.false_or, Bool.false_eq_true, if_false]
        split
        · split <;> rfl
        · rfl
    · rfl

/-- a fragment that fails a test of its header, its ICV or its tag, or does not decrypt -/
theorem fragRecvAlloc_rejected (h : fragAccepts sa packet = none) :
    fragRecvAlloc fail now sa chain packet = (fragExpire now chain, none) := by
  rw [fragRecvAlloc_eq, h]

/-- an accepted fragment has a number of its own -/
theorem fragAccepts_number (h : fragAccepts sa packet = some data) :
    1 ≤ skfNumber packet ∧ skfNumber packet ≤ skfTotal packet ∧ skfTotal packet ≤ maxFrags := by
  unfold fragAccepts at h
  split at h
  · exact absurd h (by simp)
  · split at h
    · rename_i e a key he ha hkey
      split at h
      · exact absurd h (by simp)
      · rename_i hpass
        simp only [Bool.or_eq_true, Bool.not_eq_true', not_or, Bool.not_eq_false] at hpass
        have hwf := hpass.1.2
        unfold fragWellFormed at hwf
        simp only [Bool.and_eq_true, decide_eq_true_eq] at hwf
        exact ⟨hwf.1.1.1.1.1, hwf.1.1.1.2, hwf.1.1.2⟩
    · exact absurd h (by simp)

end

/-! ## the counters of an assembly -/

/-- the slots that hold a part -/
def FragItem.stored (item : FragItem) : Finset Nat :=
  (Finset.Icc 1 maxFrags).filter fun i => (item.parts i).isSome

/-- the octets of the stored parts -/
def FragItem.storedLen (item : FragItem) : Nat :=
  ∑ i ∈ item.stored, ((item.parts i).getD []).length

/-- the counters of an assembly say what it holds -/
structure FragItem.Accounted (item : FragItem) : Prop where
  total : item.totalFragments ≤ maxFrags
  indices : ∀ i, (item.parts i).isSome → 1 ≤ i ∧ i ≤ item.totalFragments
  received : item.numReceived = item.stored.card
  dataLen : item.totalDataLen = item.storedLen
  bounded : item.totalDataLen ≤ maxReasm

/-- the representation invariant of `frag_chain` -/
structure ChainInv (chain : List FragItem) : Prop where
  distinct : Keyed.Distinct FragItem.msgid chain
  assemblies : chain.length ≤ maxAssemblies
  accounted : ∀ item ∈ chain, item.Accounted
  nonempty : ∀ item ∈ chain, item.stored.Nonempty

section
variable {item : FragItem} {no : Nat} {np : UInt8} {data : Bytes}

theorem FragItem.mem_stored {i : Nat} :
    i ∈ item.stored ↔ (1 ≤ i ∧ i ≤ maxFrags) ∧ (item.parts i).isSome := by
  unfold FragItem.stored
  rw [Finset.mem_filter, Finset.mem_Icc]

theorem FragItem.Accounted.mem_stored (h : item.Accounted) {i : Nat} :
    i ∈ item.stored ↔ (item.parts i).isSome := by
  rw [FragItem.mem_stored]
  constructor
  · exact fun hi => hi.2
  · intro hi
    have hrange := h.indices i hi
    exact ⟨⟨hrange.1, Nat.le_trans hrange.2 h.total⟩, hi⟩

/-- a context without parts -/
theorem FragItem.stored_empty (h : ∀ i, item.parts i = none) : item.stored = ∅ := by
  apply Finset.filter_eq_empty_iff.mpr
  intro i _
  rw [h i]
  exact Bool.false_ne_true

theorem FragItem.accounted_empty (htotal : item.totalFragments ≤ maxFrags)
    (hparts : ∀ i, item.parts i = none) (hreceived : item.numReceived = 0)
    (hlen : item.totalDataLen = 0) : item.Accounted where
  total := htotal
  indices := by
    intro i hi
    rw [hparts i] at hi
    exact absurd hi Bool.false_ne_true
  received := by
    rw [FragItem.stored_empty hparts, hreceived]
    rfl
  dataLen := by
    unfold FragItem.storedLen
    rw [FragItem.stored_empty hparts, hlen]
    rfl
  bounded := by
    rw [hlen]
    exact Nat.zero_le _

/-- the counters do not depend on `parts[0]` -/
theorem FragItem.Accounted.setNext (h : item.Accounted) (np : UInt8) :
    FragItem.Accounted { item with nextPayload := np } :=
  ⟨h.total, h.indices, h.received, h.dataLen, h.bounded⟩

theorem FragItem.stored_insert (hfree : item.parts no = none) (hpos : 1 ≤ no)
    (hmax : no ≤ maxFrags) :
    no ∉ item.stored ∧ (item.insert no np data).stored = Insert.insert no item.stored := by
  constructor
  · intro hmem
    have hsome := (FragItem.mem_stored.mp hmem).2
    rw [hfree] at hsome
    exact absurd hsome Bool.false_ne_true
  · ext i
    rw [Finset.mem_insert, FragItem.mem_stored, FragItem.mem_stored]
    show (1 ≤ i ∧ i ≤ maxFrags) ∧ (if i = no then some data else item.parts i).isSome ↔ _
    by_cases hi : i = no
    · rw [if_pos hi, hi]
      exact ⟨fun _ => .inl rfl, fun _ => ⟨⟨hpos, hmax⟩, rfl⟩⟩
    · rw [if_neg hi]
      exact ⟨.inr, fun h => h.resolve_left hi⟩

theorem FragItem.storedLen_insert (hfree : item.parts no = none) (hpos : 1 ≤ no)
    (hmax : no ≤ maxFrags) :
    (item.insert no np data).storedLen = item.storedLen + data.length := by
  obtain ⟨hnot, hstored⟩ := @FragItem.stored_insert item no np data hfree hpos hmax
  unfold FragItem.storedLen
  rw [hstored, Finset.sum_insert hnot, Nat.add_comm]
  congr 1
  · apply Finset.sum_congr rfl
    intro i hi
    show ((if i = no then some data else item.parts i).getD []).length = _
    rw [if_neg]
    intro heq
    exact hnot (heq ▸ hi)
  · show ((if no = no then some data else item.parts no).getD []).length = data.length
    rw [if_pos rfl]
    rfl

theorem FragItem.Accounted.insert (h : item.Accounted) (hfree : item.parts no = none)
    (hpos : 1 ≤ no) (hno : no ≤ item.totalFragments)
    (hlen : item.totalDataLen + data.length ≤ maxReasm) : (item.insert no np data).Accounted where
  total := h.total
  indices := by
    intro i hi
    by_cases heq : i = no
    · rw [heq]
      exact ⟨hpos, hno⟩
    · have hpart : (item.insert no np data).parts i = item.parts i := if_neg heq
      rw [hpart] at hi
      exact h.indices i hi
  received := by
    obtain ⟨hnot, hstored⟩ := @FragItem.stored_insert item no np data hfree hpos
      (Nat.le_trans hno h.total)
    rw [hstored, Finset.card_insert_of_notMem hnot, ← h.received]
    rfl
  dataLen := by
    rw [FragItem.storedLen_insert hfree hpos (Nat.le_trans hno h.total), ← h.dataLen]
    rfl
  bounded := hlen

theorem FragItem.insert_nonempty (hfree : item.parts no = none) (hpos : 1 ≤ no)
    (hmax : no ≤ maxFrags) : (item.insert no np data).stored.Nonempty := by
  rw [(FragItem.stored_insert hfree hpos hmax).2]
  exact Finset.insert_nonempty _ _

/-- a counter that has reached the total: no part is missing -/
theorem FragItem.Accounted.complete (h : item.Accounted)
    (hall : item.totalFragments ≤ item.numReceived) (i : Nat) (hpos : 1 ≤ i)
    (hle : i ≤ item.totalFragments) : (item.parts i).isSome := by
  have hsub : item.stored ⊆ Finset.Icc 1 item.totalFragments := by
    intro j hj
    exact Finset.mem_Icc.mpr (h.indices j (h.mem_stored.mp hj))
  have hcard : (Finset.Icc 1 item.totalFragments).card ≤ item.stored.card := by
    rw [Nat.card_Icc, ← h.received]
    omega
  rw [← h.mem_stored, Finset.eq_of_subset_of_card_le hsub hcard]
  exact Finset.mem_Icc.mpr ⟨hpos, hle⟩

end

theorem mergeParts_some {parts : Nat → Option Bytes} (n : Nat)
    (h : ∀ i, 1 ≤ i → i ≤ n → (parts i).isSome) : (mergeParts parts n).isSome := by
  induction n with
  | zero => rfl
  | succ n ih =>
    have hfront := ih fun i hpos hle => h i hpos (by omega)
    have hlast := h (n + 1) (by omega) (Nat.le_refl _)
    obtain ⟨m, hm⟩ := Option.isSome_iff_exists.mp hfront
    obtain ⟨c, hc⟩ := Option.isSome_iff_exists.mp hlast
    rw [mergeParts, hm, hc]
    rfl

/-! ## what a call does -/

/-- the context with the fragment in it -/
def entered (now : Nat) (chain : List FragItem) (packet data : Bytes) : FragItem :=
  (fragContext now chain (messageId packet) (skfTotal packet)).2.insert (skfNumber packet)
    (byteAt packet 28) data

/-- what an accepted fragment does to the queue, and what it returns -/
inductive FragOutcome (now : Nat) (chain : List FragItem) (packet data : Bytes) :
    List FragItem × Option Bytes → Prop where
  | evicted : findAssembly chain (messageId packet) = none →
    FragOutcome now chain packet data (fragEvict chain, none)
  | settled (np : UInt8) : FragOutcome now chain packet data
    (fragSettle (fragContext now chain (messageId packet) (skfTotal packet)).1
      { (fragContext now chain (messageId packet) (skfTotal packet)).2 with nextPayload := np },
      none)
  | waiting :
    (fragContext now chain (messageId packet) (skfTotal packet)).2.totalDataLen + data.length
      ≤ maxReasm →
    FragOutcome now chain packet data
      (replaceAssembly (fragContext now chain (messageId packet) (skfTotal packet)).1
        (entered now chain packet data), none)
  | returned (merged : Bytes) :
    mergeParts (entered now chain packet data).parts (skfTotal packet) = some merged →
    FragOutcome now chain packet data
      (removeAssembly (fragContext now chain (messageId packet) (skfTotal packet)).1
        (messageId packet),
      some (reassembled packet (entered now chain packet data).nextPayload merged))

/-- `chain'` is `chain` with a context for message `m`, and perhaps without its oldest ones -/
structure ContextIn (chain chain' : List FragItem) (m : Nat) : Prop where
  distinct : Keyed.Distinct FragItem.msgid chain'
  assemblies : chain'.length ≤ maxAssemblies
  others : ∀ item ∈ chain', item.msgid ≠ m → item ∈ chain

section
variable {fail : AllocFail} {now : Nat} {sa : Sa} {chain chain' : List FragItem}
  {packet data : Bytes} {item : FragItem} {no : Nat}

theorem fragFail_free (h : item.parts no = none) (n : Nat) :
    fragFail chain item no n = fragSettle chain item := by
  have hfree : ¬ (no ≤ item.totalFragments ∧ (item.parts no).isSome) := by
    rw [h]
    exact fun hsome => Bool.false_ne_true hsome.2
  unfold fragFail
  rw [if_neg hfree]

/-- the part that was just stored goes again -/
theorem FragItem.dropPart_insert (hfree : item.parts no = none) (np np' : UInt8) (data : Bytes) :
    FragItem.dropPart { item.insert no np data with nextPayload := np' } no data.length
      = { item with nextPayload := np' } := by
  have hparts : (fun i => if i = no then none else (item.insert no np data).parts i)
      = item.parts := by
    funext i
    by_cases hi : i = no
    · rw [if_pos hi, hi, hfree]
    · rw [if_neg hi]
      exact if_neg hi
  show FragItem.mk item.msgid item.totalFragments (item.numReceived + 1 - 1)
    (item.totalDataLen + data.length - data.length) item.timeout np'
    (fun i => if i = no then none else (item.insert no np data).parts i) = _
  rw [hparts, Nat.add_sub_cancel, Nat.add_sub_cancel]

theorem fragFail_inserted (hfree : item.parts no = none) (hno : no ≤ item.totalFragments)
    (np np' : UInt8) (data : Bytes) :
    fragFail chain { item.insert no np data with nextPayload := np' } no data.length
      = fragSettle chain { item with nextPayload := np' } := by
  have hpart : (item.insert no np data).parts no = some data := if_pos rfl
  unfold fragFail
  rw [if_pos, FragItem.dropPart_insert hfree]
  refine ⟨hno, ?_⟩
  show ((item.insert no np data).parts no).isSome
  rw [hpart]
  rfl

theorem fragEvict_sublist (chain : List FragItem) : (fragEvict chain).Sublist chain := by
  unfold fragEvict
  split
  · exact List.drop_sublist _ _
  · exact List.Sublist.refl _

theorem fragEvict_length (chain : List FragItem) : (fragEvict chain).length < maxAssemblies := by
  have h4 : maxAssemblies = 4 := rfl
  unfold fragEvict
  split
  · rw [List.length_drop]
    omega
  · omega

theorem ChainInv.sublist (h : ChainInv chain) (hsub : chain'.Sublist chain) : ChainInv chain' where
  distinct := h.distinct.sublist hsub
  assemblies := Nat.le_trans hsub.length_le h.assemblies
  accounted := fun item hmem => h.accounted item (hsub.subset hmem)
  nonempty := fun item hmem => h.nonempty item (hsub.subset hmem)

theorem ChainInv.expire (h : ChainInv chain) (now : Nat) : ChainInv (fragExpire now chain) :=
  h.sublist List.filter_sublist

theorem ContextIn.replace (hctx : ContextIn chain chain' item.msgid) (h : ChainInv chain)
    (hitem : item.Accounted) (hsome : item.stored.Nonempty) :
    ChainInv (replaceAssembly chain' item) where
  distinct := hctx.distinct.replace item
  assemblies := by
    rw [show (replaceAssembly chain' item).length = chain'.length from Keyed.length_replace _ _]
    exact hctx.assemblies
  accounted := by
    intro i hi
    rcases Keyed.mem_replace hi with rfl | ⟨hmem, hne⟩
    · exact hitem
    · exact h.accounted i (hctx.others i hmem hne)
  nonempty := by
    intro i hi
    rcases Keyed.mem_replace hi with rfl | ⟨hmem, hne⟩
    · exact hsome
    · exact h.nonempty i (hctx.others i hmem hne)

theorem ContextIn.remove {m : Nat} (hctx : ContextIn chain chain' m) (h : ChainInv chain) :
    ChainInv (removeAssembly chain' m) where
  distinct := hctx.distinct.remove m
  assemblies := Nat.le_trans (Keyed.length_remove_le _ _) hctx.assemblies
  accounted := by
    intro i hi
    obtain ⟨hmem, hne⟩ := Keyed.mem_remove hi
    exact h.accounted i (hctx.others i hmem hne)
  nonempty := by
    intro i hi
    obtain ⟨hmem, hne⟩ := Keyed.mem_remove hi
    exact h.nonempty i (hctx.others i hmem hne)

/-- the context settled: it holds a part, or it goes -/
theorem ContextIn.settle (hctx : ContextIn chain chain' item.msgid) (h : ChainInv chain)
    (hitem : item.Accounted) : ChainInv (fragSettle chain' item) := by
  unfold fragSettle
  split
  · exact hctx.remove h
  · rename_i hreceived
    apply hctx.replace h hitem
    rw [← Finset.card_pos, ← hitem.received]
    omega

theorem fragContext_none {m n : Nat} (h : findAssembly chain m = none) (now : Nat) :
    fragContext now chain m n =
      (fragEvict chain ++ [FragItem.fresh m n now], FragItem.fresh m n now) := by
  unfold fragContext
  rw [h]
  rfl

theorem fragContext_some {m n : Nat} {item : FragItem} (h : findAssembly chain m = some item)
    (now : Nat) :
    fragContext now chain m n =
      (chain, if item.totalFragments < n then item.restart n now else item) := by
  unfold fragContext
  rw [h]

/-- an assembly of as many fragments stays as it is -/
theorem fragContext_same {m n : Nat} {item : FragItem} (h : findAssembly chain m = some item)
    (htotal : item.totalFragments = n) (now : Nat) : fragContext now chain m n = (chain, item) := by
  rw [fragContext_some h, if_neg (by rw [htotal]; exact Nat.lt_irrefl n)]

/-- the context of an expected fragment -/
theorem fragContext_spec (now : Nat) (h : ChainInv chain) (hexp : fragExpected chain packet = true)
    (htotal : skfTotal packet ≤ maxFrags) :
    let ctx := fragContext now chain (messageId packet) (skfTotal packet)
    ContextIn chain ctx.1 (messageId packet) ∧ ctx.2.msgid = messageId packet
      ∧ ctx.2.totalFragments = skfTotal packet ∧ ctx.2.Accounted
      ∧ ctx.2.parts (skfNumber packet) = none := by
  intro ctx
  cases hfind : findAssembly chain (messageId packet) with
  | none =>
    have heq : ctx = _ := fragContext_none hfind now
    rw [heq]
    refine ⟨⟨?_, ?_, ?_⟩, rfl, rfl, ?_, rfl⟩
    · apply (h.distinct.sublist (fragEvict_sublist chain)).append
      rw [Keyed.find_eq_none]
      intro i hi
      exact Keyed.find_eq_none.mp hfind i ((fragEvict_sublist chain).subset hi)
    · rw [List.length_append]
      exact fragEvict_length chain
    · intro i hi hne
      rcases List.mem_append.mp hi with hi | hi
      · exact (fragEvict_sublist chain).subset hi
      · rw [List.mem_singleton.mp hi] at hne
        exact absurd rfl hne
    · exact FragItem.accounted_empty htotal (fun _ => rfl) rfl rfl
  | some item =>
    obtain ⟨hmem, hid⟩ := Keyed.mem_of_find hfind
    have hacc := h.accounted item hmem
    have heq : ctx = _ := fragContext_some hfind now
    unfold fragExpected at hexp
    rw [hfind] at hexp
    simp only [Bool.and_eq_true, decide_eq_true_eq, Bool.not_eq_true', Bool.and_eq_false_iff,
      decide_eq_false_iff_not] at hexp
    rw [heq]
    refine ⟨⟨h.distinct, h.assemblies, fun i hi _ => hi⟩, ?_⟩
    by_cases hless : item.totalFragments < skfTotal packet
    · -- a larger Total Fragments: nothing is left of the old parts
      have hparts : ∀ i, (item.restart (skfTotal packet) now).parts i = none := by
        intro i
        show (if 1 ≤ i ∧ i ≤ item.totalFragments then none else item.parts i) = none
        split
        · rfl
        · rename_i hout
          by_contra hsome
          exact hout (hacc.indices i (Option.isSome_iff_ne_none.mpr hsome))
      simp only [if_pos hless]
      exact ⟨hid, rfl, FragItem.accounted_empty htotal hparts rfl rfl, hparts _⟩
    · have htot : item.totalFragments = skfTotal packet := by omega
      simp only [if_neg hless]
      refine ⟨hid, htot, hacc, ?_⟩
      rcases hexp.2 with hne | hpart
      · exact absurd htot.symm hne
      · exact Option.isSome_eq_false_iff.mp hpart |> Option.isNone_iff_eq_none.mp

/-- the slot is free: the fragment is stored -/
theorem fragStore_entered
    (hfree : (fragContext now chain (messageId packet) (skfTotal packet)).2.parts (skfNumber packet)
      = none) :
    (fragContext now chain (messageId packet) (skfTotal packet)).2.store (skfNumber packet)
      (byteAt packet 28) data = entered now chain packet data := by
  unfold FragItem.store
  rw [hfree]
  rfl

/-- an assembly whose counter has reached its total is merged -/
theorem FragItem.Accounted.merged (h : item.Accounted)
    (hall : ¬ item.numReceived < item.totalFragments) :
    ∃ merged, mergeParts item.parts item.totalFragments = some merged :=
  Option.isSome_iff_exists.mp (mergeParts_some item.totalFragments
    fun i hpos hle => h.complete (Nat.le_of_not_lt hall) i hpos hle)

theorem fragMerge_unmerged (hall : ¬ item.numReceived < item.totalFragments) (n : Nat) :
    fragMerge .merged chain packet item n
      = (fragFail chain { item with nextPayload := 0 } (skfNumber packet) n, none) := by
  unfold fragMerge
  rw [if_neg hall]
  rfl

theorem fragMerge_complete {merged : Bytes} (hall : ¬ item.numReceived < item.totalFragments)
    (hmerge : mergeParts item.parts item.totalFragments = some merged) (hmerged : fail ≠ .merged)
    (hfail : fail ≠ .packet) (n : Nat) :
    fragMerge fail chain packet item n
      = (removeAssembly chain item.msgid, some (reassembled packet item.nextPayload merged)) := by
  unfold fragMerge
  rw [if_neg hall]
  simp only
  rw [if_neg hmerged, hmerge]
  simp only
  rw [if_neg hfail]

/-- every exit of `ikev2_frag_recv` behind the decryption, but for the last allocation -/
theorem fragEnter_outcome (h : ChainInv chain) (hexp : fragExpected chain packet = true)
    (haccept : fragAccepts sa packet = some data) (hfail : fail ≠ .packet) :
    FragOutcome now chain packet data (fragEnter fail now chain packet data) := by
  obtain ⟨hpos, hno, htotal⟩ := fragAccepts_number haccept
  obtain ⟨hctx, hid, htot, hacc, hfree⟩ := fragContext_spec now h hexp htotal
  have hle : skfNumber packet
      ≤ (fragContext now chain (messageId packet) (skfTotal packet)).2.totalFragments := by
    rw [htot]
    exact hno
  unfold fragEnter
  by_cases hitem : fail = .item ∧ findAssembly chain (messageId packet) = none
  · rw [if_pos hitem]
    exact .evicted hitem.2
  · rw [if_neg hitem]
    simp only
    by_cases hlarge : maxReasm
        < (fragContext now chain (messageId packet) (skfTotal packet)).2.totalDataLen + data.length
          ∨ fail = .chunk
    · rw [if_pos hlarge, fragFail_free hfree]
      exact .settled _
    · rw [if_neg hlarge]
      have hlen : (fragContext now chain (messageId packet) (skfTotal packet)).2.totalDataLen
          + data.length ≤ maxReasm := Nat.le_of_not_lt fun hlt => hlarge (.inl hlt)
      have hentered : (entered now chain packet data).Accounted := hacc.insert hfree hpos hle hlen
      rw [fragStore_entered hfree]
      by_cases hwait : (entered now chain packet data).numReceived
          < (entered now chain packet data).totalFragments
      · unfold fragMerge
        rw [if_pos hwait]
        exact .waiting hlen
      · by_cases hmerged : fail = .merged
        · rw [hmerged, fragMerge_unmerged hwait]
          unfold entered
          rw [fragFail_inserted hfree hle]
          exact .settled 0
        · -- no part is missing: the counter is right
          obtain ⟨merged, hmerge⟩ := hentered.merged hwait
          have hmsgid : (entered now chain packet data).msgid = messageId packet := hid
          have htot' : (entered now chain packet data).totalFragments = skfTotal packet := htot
          rw [fragMerge_complete hwait hmerge hmerged hfail, hmsgid]
          rw [htot'] at hmerge
          exact .returned merged hmerge

/-- a call drops the fragment, or an accepted fragment has its outcome -/
theorem recv_cases (h : ChainInv chain) (hfail : fail ≠ .packet) :
    ((fragAccepts sa packet).isSome → fragExpected (fragExpire now chain) packet = true →
        fail = .early)
      ∧ fragRecvAlloc fail now sa chain packet = (fragExpire now chain, none)
      ∨ ∃ data, fragAccepts sa packet = some data
        ∧ fragExpected (fragExpire now chain) packet = true
        ∧ FragOutcome now (fragExpire now chain) packet data
          (fragRecvAlloc fail now sa chain packet) := by
  rw [fragRecvAlloc_eq]
  cases haccept : fragAccepts sa packet with
  | none => exact .inl ⟨fun hsome => absurd hsome Bool.false_ne_true, rfl⟩
  | some data =>
    simp only
    split
    · rename_i hpass
      simp only [Bool.or_eq_true, Bool.not_eq_true', decide_eq_true_eq] at hpass
      refine .inl ⟨fun _ hexp => hpass.resolve_left ?_, rfl⟩
      rw [hexp]
      exact Bool.noConfusion
    · rename_i hpass
      simp only [Bool.or_eq_true, Bool.not_eq_true', decide_eq_true_eq, not_or,
        Bool.not_eq_false] at hpass
      exact .inr ⟨data, rfl, hpass.1, fragEnter_outcome (h.expire now) hpass.1 haccept hfail⟩

theorem FragOutcome.inv {r : List FragItem × Option Bytes} (h : ChainInv chain)
    (hexp : fragExpected chain packet = true) (haccept : fragAccepts sa packet = some data)
    (hout : FragOutcome now chain packet data r) : ChainInv r.1 := by
  obtain ⟨hpos, hno, htotal⟩ := fragAccepts_number haccept
  obtain ⟨hctx, hid, htot, hacc, hfree⟩ := fragContext_spec now h hexp htotal
  cases hout with
  | evicted hnone => exact h.sublist (fragEvict_sublist chain)
  | settled np =>
    apply ContextIn.settle _ h (hacc.setNext np)
    rw [show FragItem.msgid { (fragContext now chain (messageId packet) (skfTotal packet)).2 with
      nextPayload := np } = messageId packet from hid]
    exact hctx
  | waiting hlen =>
    have hin : ContextIn chain (fragContext now chain (messageId packet) (skfTotal packet)).1
        (entered now chain packet data).msgid := by
      rw [show (entered now chain packet data).msgid = messageId packet from hid]
      exact hctx
    exact hin.replace h (hacc.insert hfree hpos (by rw [htot]; exact hno) hlen)
      (FragItem.insert_nonempty hfree hpos (Nat.le_trans hno htotal))
  | returned merged hmerge => exact hctx.remove h

end

section
variable {now : Nat} {sa : Sa} {chain : List FragItem} {packet data : Bytes}

/-- nothing fails: `fragStore` -/
theorem fragEnter_never (h : ChainInv chain) (hexp : fragExpected chain packet = true)
    (haccept : fragAccepts sa packet = some data) :
    fragEnter .never now chain packet data = fragStore now chain packet data := by
  obtain ⟨hpos, hno, htotal⟩ := fragAccepts_number haccept
  obtain ⟨hctx, hid, htot, hacc, hfree⟩ := fragContext_spec now h hexp htotal
  unfold fragEnter fragStore
  rw [if_neg (fun hitem => AllocFail.noConfusion hitem.1)]
  simp only [reduceCtorEq, or_false]
  split
  · rw [fragFail_free hfree]
    rfl
  · rename_i hlarge
    have hentered : (entered now chain packet data).Accounted :=
      hacc.insert hfree hpos (by rw [htot]; exact hno) (by omega)
    rw [fragStore_entered hfree]
    show _ = fragComplete _ packet (entered now chain packet data)
    unfold fragComplete
    by_cases hwait : (entered now chain packet data).numReceived
        < (entered now chain packet data).totalFragments
    · unfold fragMerge
      rw [if_pos hwait, if_pos hwait]
    · obtain ⟨merged, hmerge⟩ := hentered.merged hwait
      rw [fragMerge_complete hwait hmerge AllocFail.noConfusion AllocFail.noConfusion,
        if_neg hwait, hmerge]

theorem fragRecv_eq : fragRecv now { sa with fragChain := chain } packet
    = match fragAccepts sa packet with
      | none => (fragExpire now chain, none)
      | some data =>
        if !fragExpected (fragExpire now chain) packet then (fragExpire now chain, none)
        else fragStore now (fragExpire now chain) packet data := by
  unfold fragRecv fragAccepts
  simp only
  split
  · rfl
  · show (match sa.encryptor, sa.authenticator, sa.recvEncKey with
      | some e, some a, some key =>
        if !sa.hasRecvKeys || !fragWellFormed e a packet || !sa.fragSupported
            || !fragExpected (fragExpire now chain) packet then (fragExpire now chain, none)
        else match fragOpen e a sa.recvAuthKey key packet with
          | none => (fragExpire now chain, none)
          | some data => fragStore now (fragExpire now chain) packet data
      | _, _, _ => (fragExpire now chain, none)) = _
    split
    · rename_i e a key he ha hkey
      by_cases hpass : (!sa.hasRecvKeys || !fragWellFormed e a packet || !sa.fragSupported) = true
      · rw [hpass]
        rfl
      · rw [Bool.eq_false_of_not_eq_true hpass]
        simp only [Bool.false_or, Bool.false_eq_true, if_false]
        cases fragOpen e a sa.recvAuthKey key packet with
        | none =>
          simp only
          split <;> rfl
        | some data => rfl
    · rfl

/-- the receiver of the other modules is the one without failures, on a consistent queue -/
theorem fragRecvAlloc_never (h : ChainInv chain) :
    fragRecvAlloc .never now sa chain packet
      = fragRecv now { sa with fragChain := chain } packet := by
  rw [fragRecvAlloc_eq, fragRecv_eq]
  cases haccept : fragAccepts sa packet with
  | none => rfl
  | some data =>
    simp only [reduceCtorEq, decide_false, Bool.or_false]
    by_cases hexp : fragExpected (fragExpire now chain) packet = true
    · rw [hexp]
      exact fragEnter_never (h.expire now) hexp haccept
    · rw [Bool.eq_false_of_not_eq_true hexp]
      rfl

end

/-! ## runs -/

/-- a call that touches the queue of an SA -/
inductive QueueCall where
  | recv (fail : AllocFail) (now : Nat) (sa : Sa) (packet : Bytes)
  | expire (now : Nat)
  | purge

/-- the queue after a call -/
def QueueCall.run (chain : List FragItem) : QueueCall → List FragItem
  | .recv fail now sa packet => (fragRecvAlloc fail now sa chain packet).1
  | .expire now => fragExpire now chain
  | .purge => []

/-- the packet itself could be allocated -/
def QueueCall.allocates (_ : List FragItem) : QueueCall → Prop
  | .recv fail _ _ _ => fail ≠ .packet
  | _ => True

theorem chainInv_nil : ChainInv [] where
  distinct := List.nodup_nil
  assemblies := Nat.zero_le _
  accounted := fun item hmem => absurd hmem List.not_mem_nil
  nonempty := fun item hmem => absurd hmem List.not_mem_nil

theorem QueueCall.run_inv (chain : List FragItem) (call : QueueCall) (h : ChainInv chain)
    (hok : call.allocates chain) : ChainInv (call.run chain) := by
  cases call with
  | recv fail now sa packet =>
    show ChainInv (fragRecvAlloc fail now sa chain packet).1
    rcases recv_cases h hok with ⟨-, hdrop⟩ | ⟨data, haccept, hexp, hout⟩
    · rw [hdrop]
      exact h.expire now
    · exact hout.inv (h.expire now) hexp haccept
  | expire now => exact h.expire now
  | purge => exact chainInv_nil

/-- In every run of calls in which the allocation of a reassembled packet does not fail, the queue
is consistent in every state, and a fragment that fails a test of its header, its ICV or its
decryption leaves it to its timeouts. -/
theorem chain_consistent {chain : List FragItem} (h : ChainInv chain) (calls : List QueueCall)
    (hok : Run.Meets QueueCall.run QueueCall.allocates chain calls) :
    ∀ chain' ∈ Run.states QueueCall.run chain calls, ChainInv chain'
      ∧ ∀ fail now sa packet, fragAccepts sa packet = none →
        (QueueCall.recv fail now sa packet).run chain' = fragExpire now chain' := by
  intro chain' hmem
  refine ⟨Run.states_inv QueueCall.run_inv calls chain h hok chain' hmem, ?_⟩
  intro fail now sa packet hreject
  show (fragRecvAlloc fail now sa chain' packet).1 = _
  rw [fragRecvAlloc_rejected hreject]

/-- a fragment under the keys of `tagSa` -/
def tagFragment (exchType flags : UInt8) (m no total : Nat) (chunk : Bytes) : Bytes :=
  let data := List.replicate 8 0 ++ chunk ++ [0] ++ List.replicate 16 0
  skfFront ((tagSend.header exchType flags m).octets payloadSkf 0) payloadNotify no total data.length
    ++ data

/-- two fragments, the second of which finds no memory -/
theorem chain_consistent_two :
    ∃ chain ∈ Run.states QueueCall.run []
        [.recv .never 0 (tagSa false) (tagFragment exchInformational flagInitiator 3 1 2 [1]),
          .recv .chunk 5 (tagSa false) (tagFragment exchInformational flagInitiator 3 2 2 [2]),
          .expire 90],
      chain.length = 1 ∧ ChainInv chain := by
  have hreach : ∃ chain ∈ Run.states QueueCall.run []
      [.recv .never 0 (tagSa false) (tagFragment exchInformational flagInitiator 3 1 2 [1]),
        .recv .chunk 5 (tagSa false) (tagFragment exchInformational flagInitiator 3 2 2 [2]),
        .expire 90], chain.length = 1 := by decide +kernel
  obtain ⟨chain, hmem, hlen⟩ := hreach
  refine ⟨chain, hmem, hlen, (chain_consistent chainInv_nil _ ?_ chain hmem).1⟩
  exact ⟨AllocFail.noConfusion, AllocFail.noConfusion, trivial, trivial⟩

/-- the packet cannot be allocated: its parts are gone and still counted -/
theorem chain_miscounted :
    ∃ chain ∈ Run.states QueueCall.run []
        [.recv .packet 0 (tagSa false) (tagFragment exchInformational flagInitiator 3 1 1 [1])],
      ¬ ChainInv chain := by
  refine ⟨_, List.mem_cons_of_mem _ (List.mem_singleton_self _), fun h => ?_⟩
  have hempty : (QueueCall.run []
      (.recv .packet 0 (tagSa false) (tagFragment exchInformational flagInitiator 3 1 1 [1]))).any
        (fun item => decide (item.stored = ∅)) = true := by decide +kernel
  obtain ⟨item, hmem, hitem⟩ := List.any_eq_true.mp hempty
  have hsome := h.nonempty item hmem
  rw [of_decide_eq_true hitem] at hsome
  exact absurd hsome Finset.not_nonempty_empty

end Ikev2
