import Racoon2.Iked.Input

/-!
# What a datagram does to one SA, and runs of datagrams

`ikev2_input` looks an SA up, and from there on only that SA is touched.  `saInput` is this part
of it as a function of the SA, and a run is a list of datagrams delivered one after the other.

* `findSa_reassembled`   a reassembled message finds the SA its last fragment found;
* `ikev2Input_found`     a datagram to a known SA is `saInput` at its position;
* `ikev2Input_missed`    any other datagram leaves the SAs that exist as they are;
* `run_keeps`            a relation that every delivery keeps holds along a run.
-/

set_option linter.unusedVariables false

namespace Ikev2
open Bytes

/-! ## a reassembled message and its fragments -/

section
variable (packet : Bytes) (hlen : headerSize ≤ packet.length) (np : UInt8) (merged : Bytes)
include hlen

theorem reassembled_slice (i n : Nat) (h : i + n ≤ 16) :
    slice (reassembled packet np merged) i n = slice packet i n := by
  have hh : headerSize = 28 := rfl
  have hl : (put (packet.take headerSize) 16 [np]).length = 28 := by
    rw [put_length _ _ _ (by simp; omega), List.length_take]
    omega
  unfold reassembled putLength
  rw [slice_put_left _ _ _ _ _ (by omega) (by rw [List.length_append]; omega),
    slice_append_left _ _ _ _ (by omega),
    slice_put_left _ _ _ _ _ (by omega) (by rw [List.length_take]; omega),
    slice_take _ _ _ _ (by omega)]

theorem reassembled_byteAt (i : Nat) (h1 : 16 < i) (h2 : i < 24) :
    byteAt (reassembled packet np merged) i = byteAt packet i := by
  have hh : headerSize = 28 := rfl
  have hl : (put (packet.take headerSize) 16 [np]).length = 28 := by
    rw [put_length _ _ _ (by simp; omega), List.length_take]
    omega
  unfold reassembled putLength
  rw [byteAt_put_left _ _ _ _ (by omega) (by rw [List.length_append]; omega),
    byteAt_append_left _ _ _ (by omega),
    byteAt_put_right _ _ _ _ (by simp; omega) (by rw [List.length_take]; omega),
    byteAt_take _ _ _ (by omega)]

theorem reassembled_flags : flags (reassembled packet np merged) = flags packet :=
  reassembled_byteAt packet hlen np merged 19 (by omega) (by omega)

theorem reassembled_exchangeType :
    exchangeType (reassembled packet np merged) = exchangeType packet :=
  reassembled_byteAt packet hlen np merged 18 (by omega) (by omega)

theorem reassembled_isResponse :
    isResponse (reassembled packet np merged) = isResponse packet := by
  unfold isResponse
  rw [reassembled_flags packet hlen]

theorem reassembled_messageId :
    messageId (reassembled packet np merged) = messageId packet := by
  unfold messageId be32 be16
  rw [reassembled_byteAt packet hlen np merged 20 (by omega) (by omega),
    reassembled_byteAt packet hlen np merged 21 (by omega) (by omega),
    reassembled_byteAt packet hlen np merged 22 (by omega) (by omega),
    reassembled_byteAt packet hlen np merged 23 (by omega) (by omega)]

/-- only a first request is compared as a whole; every other lookup reads fields that
reassembly keeps -/
theorem saMatches_reassembled (sa : Sa)
    (h : ¬ (hasInitiatorFlag packet = true ∧ exchangeType packet = exchIkeSaInit
      ∧ isResponse packet = false)) :
    saMatches (reassembled packet np merged) sa = saMatches packet sa := by
  have hi : initiatorSpi (reassembled packet np merged) = initiatorSpi packet :=
    reassembled_slice packet hlen np merged 0 8 (by omega)
  have hr : responderSpi (reassembled packet np merged) = responderSpi packet :=
    reassembled_slice packet hlen np merged 8 8 (by omega)
  unfold saMatches
  rw [reassembled_isResponse packet hlen]
  unfold hasInitiatorFlag at h ⊢
  rw [hi, hr, reassembled_flags packet hlen, reassembled_exchangeType packet hlen]
  cases hf : (flags packet &&& flagInitiator != 0) with
  | false => simp
  | true =>
    have hn : ¬ ((exchangeType packet == exchIkeSaInit && !isResponse packet) = true) := by
      intro hc
      simp only [Bool.and_eq_true, beq_iff_eq, Bool.not_eq_true'] at hc
      exact h ⟨hf, hc.1, hc.2⟩
    rw [if_neg hn, if_neg hn]

end

/-- a fragment that finds an SA is no first request, since no SA was started by a fragment -/
theorem saMatches_skf {packet : Bytes} {sa : Sa} (hskf : nextPayload packet = payloadSkf)
    (hm : saMatches packet sa = true) :
    ¬ (hasInitiatorFlag packet = true ∧ exchangeType packet = exchIkeSaInit
      ∧ isResponse packet = false) := by
  rintro ⟨h1, h2, h3⟩
  unfold saMatches at hm
  rw [h1, h2, h3] at hm
  simp only [Bool.not_true, Bool.false_and, Bool.false_eq_true, if_false, Bool.true_and,
    beq_self_eq_true, Bool.not_false, if_true] at hm
  split at hm
  · rw [Bool.and_eq_true] at hm
    have hp := hm.2
    cases hfirst : sa.peerFirstMessage with
    | none =>
      rw [hfirst] at hp
      exact absurd hp (by simp)
    | some m =>
      rw [hfirst] at hp
      have hmp : m.val = packet := by simpa using hp
      exact absurd (hmp ▸ hskf) m.property
  · exact absurd hm (by simp)

theorem fragComplete_some {chain chain' : List FragItem} {packet m : Bytes} {item : FragItem}
    (h : fragComplete chain packet item = (chain', some m)) :
    ∃ np merged, m = reassembled packet np merged := by
  unfold fragComplete at h
  split at h
  · exact absurd (Prod.mk.inj h).2 (by simp)
  · split at h
    · exact absurd (Prod.mk.inj h).2 (by simp)
    · exact ⟨_, _, (Option.some.inj (Prod.mk.inj h).2).symm⟩

theorem fragStore_some {now : Nat} {chain chain' : List FragItem} {packet data m : Bytes}
    (h : fragStore now chain packet data = (chain', some m)) :
    ∃ np merged, m = reassembled packet np merged := by
  unfold fragStore at h
  simp only at h
  split at h
  · exact absurd (Prod.mk.inj h).2 (by simp)
  · exact fragComplete_some h

theorem fragRecv_some {now : Nat} {sa : Sa} {chain : List FragItem} {packet m : Bytes}
    (h : fragRecv now sa packet = (chain, some m)) :
    ∃ np merged, m = reassembled packet np merged := by
  unfold fragRecv at h
  simp only at h
  split at h
  · exact absurd (Prod.mk.inj h).2 (by simp)
  · split at h
    · split at h
      · exact absurd (Prod.mk.inj h).2 (by simp)
      · split at h
        · exact absurd (Prod.mk.inj h).2 (by simp)
        · exact fragStore_some h
    · exact absurd (Prod.mk.inj h).2 (by simp)

/-- a fragment whose ICV or tag does not verify leaves the queue to its timeouts -/
theorem fragRecv_forged {now : Nat} {sa : Sa} {packet : Bytes} (h : skfVerifies sa packet = false) :
    fragRecv now sa packet = (fragExpire now sa.fragChain, none) := by
  unfold fragRecv
  unfold skfVerifies at h
  simp only
  split
  · rfl
  · split
    · rename_i e a key he ha hkey
      rw [he, ha, hkey] at h
      have hopen : fragOpen e a sa.recvAuthKey key packet = none := by simpa using h
      rw [hopen]
      split <;> rfl
    · rfl

/-! ## the lookup -/

theorem findSa_some {sas : List Sa} {packet : Bytes} {k : Nat} (h : findSa sas packet = some k) :
    ∃ sa, sas[k]? = some sa ∧ saMatches packet sa = true := by
  unfold findSa at h
  rw [List.findIdx?_eq_some_iff_getElem] at h
  obtain ⟨hk, hm, _⟩ := h
  exact ⟨sas[k], List.getElem?_eq_getElem hk, hm⟩

theorem findSa_congr {sas sas' : List Sa} {packet packet' : Bytes}
    (h : sas'.map (saMatches packet') = sas.map (saMatches packet)) :
    findSa sas' packet' = findSa sas packet := by
  have h1 : ∀ (l : List Sa) (p : Bytes), findSa l p = (l.map (saMatches p)).findIdx? id := by
    intro l p
    rw [List.findIdx?_map]
    rfl
  rw [h1, h1, h]

theorem findSa_reassembled {sas : List Sa} {packet : Bytes} {k : Nat} {sa : Sa}
    {chain : List FragItem} {np : UInt8} {merged : Bytes} (hlen : headerSize ≤ packet.length)
    (hskf : nextPayload packet = payloadSkf) (hfind : findSa sas packet = some k)
    (hk : sas[k]? = some sa) :
    findSa (sas.set k { sa with fragChain := chain }) (reassembled packet np merged) = some k := by
  obtain ⟨sa', hk', hm⟩ := findSa_some hfind
  obtain rfl : sa = sa' := Option.some.inj (hk.symm.trans hk')
  have heq := fun s => saMatches_reassembled packet hlen np merged s (saMatches_skf hskf hm)
  have hmap : (sas.set k { sa with fragChain := chain }).map
      (saMatches (reassembled packet np merged)) = sas.map (saMatches packet) := by
    rw [List.map_congr_left fun s _ => heq s, List.map_set]
    apply List.ext_getElem?
    intro i
    rw [List.getElem?_set]
    split
    · rename_i hi
      subst hi
      have hlt : k < (sas.map (saMatches packet)).length := by
        rw [List.length_map]
        exact (List.getElem?_eq_some_iff.mp hk).1
      rw [List.getElem?_map, hk, if_pos hlt]
      rfl
    · rfl
  rw [findSa_congr hmap]
  exact hfind

/-! ## one datagram, one SA -/

/-- what `ikev2_input` does with the SA of a datagram, once found -/
def saInput (h : Handlers) (env : Env) (sa : Sa) (packet : Bytes) (remote local_ : Endpoint) :
    Sa × List Effect :=
  if isIntermediateReplay sa packet remote then replayIntermediateResponse env sa
  else if nextPayload packet = payloadSkf then
    let (chain, merged) := fragRecv env.now sa packet
    match merged with
    | none => ({ sa with fragChain := chain }, [])
    | some m =>
      perform h env { sa with fragChain := chain } m remote local_
        (classify { sa with fragChain := chain } true m)
  else perform h env sa packet remote local_ (classify sa false packet)

theorem ikev2Input_found {w : World} {env : Env} {h : Handlers} {sas : List Sa} {d : Datagram}
    {remote local_ : Endpoint} {k : Nat} {sa : Sa} (hfind : findSa sas d.octets = some k)
    (hk : sas[k]? = some sa) :
    ikev2Input w env h sas d.octets remote local_
      = ⟨sas.set k (saInput h env sa d.octets remote local_).1,
          (saInput h env sa d.octets remote local_).2, []⟩ := by
  have hlt : k < sas.length := (List.getElem?_eq_some_iff.mp hk).1
  unfold ikev2Input inputRoute saInput
  rw [hfind]
  simp only [hk]
  by_cases hr : isIntermediateReplay sa d.octets remote = true
  · rw [if_pos hr, if_pos hr]
  · rw [if_neg hr, if_neg hr]
    by_cases hs : nextPayload d.octets = payloadSkf
    · rw [if_pos hs, if_pos hs]
      cases hfr : fragRecv env.now sa d.octets with
      | mk chain merged =>
        cases merged with
        | none => rfl
        | some m =>
          obtain ⟨np, merged, rfl⟩ := fragRecv_some hfr
          simp only [routeWhole, findSa_reassembled d.hasHeader hs hfind hk,
            List.getElem?_set_self hlt, List.set_set]
    · rw [if_neg hs, if_neg hs]

theorem routeNew_keeps (w : World) (sas : List Sa) (whole : Bool) (packet : Bytes)
    (remote local_ : Endpoint) :
    (routeNew w sas whole packet remote local_).1 = sas
      ∧ (∀ k sa b p, (routeNew w sas whole packet remote local_).2 ≠ .found k sa b p)
      ∧ (∀ k sa, (routeNew w sas whole packet remote local_).2 ≠ .replay k sa)
    ∨ ∃ sa, routeNew w sas whole packet remote local_
        = (sas ++ [sa], .found sas.length sa whole packet) := by
  unfold routeNew
  split
  · left; simp
  · split
    · left; simp
    · left; simp
    · split
      · left; simp
      · rename_i sa _
        exact .inr ⟨sa, rfl⟩

theorem ikev2Input_missed {w : World} {env : Env} {h : Handlers} {sas : List Sa} {packet : Bytes}
    {remote local_ : Endpoint} (hfind : findSa sas packet = none) {k : Nat} {sa : Sa}
    (hk : sas[k]? = some sa) :
    (ikev2Input w env h sas packet remote local_).sas[k]? = some sa := by
  have hlt : k < sas.length := (List.getElem?_eq_some_iff.mp hk).1
  unfold ikev2Input inputRoute
  rw [hfind]
  simp only
  by_cases hc : (!isCleartextExchange packet) = true
  · rw [if_pos hc]
    exact hk
  · rw [if_neg hc]
    by_cases hs : nextPayload packet = payloadSkf
    · rw [if_pos hs]
      exact hk
    · rw [if_neg hs]
      rcases routeNew_keeps w sas false packet remote local_ with ⟨h1, h2, h3⟩ | ⟨sa', hn⟩
      · cases hn : routeNew w sas false packet remote local_ with
        | mk sas' r =>
          rw [hn] at h1 h2 h3
          simp only at h1
          subst h1
          cases r with
          | ignore => exact hk
          | qcd p => exact hk
          | replay k' sa' => exact absurd rfl (h3 k' sa')
          | found k' sa' b p => exact absurd rfl (h2 k' sa' b p)
      · rw [hn]
        simp only [List.set_append_right _ _ (Nat.le_refl _)]
        rw [List.getElem?_append_left hlt]
        exact hk

/-! ## runs -/

/-- a datagram, where it came from, where it arrived and what the daemon finds then -/
structure Delivery where
  world : World
  env : Env
  datagram : Datagram
  remote : Endpoint
  local_ : Endpoint

/-- one call of `ikev2_input` -/
structure Step where
  before : List Sa
  delivery : Delivery
  outcome : Outcome

def Delivery.input (h : Handlers) (sas : List Sa) (d : Delivery) : Outcome :=
  ikev2Input d.world d.env h sas d.datagram.octets d.remote d.local_

def Delivery.saInput (h : Handlers) (sa : Sa) (d : Delivery) : Sa × List Effect :=
  Ikev2.saInput h d.env sa d.datagram.octets d.remote d.local_

def runInput (h : Handlers) : List Sa → List Delivery → List Step
  | _, [] => []
  | sas, d :: ds => ⟨sas, d, d.input h sas⟩ :: runInput h (d.input h sas).sas ds

section
variable {h : Handlers} {R : Sa → Sa → Prop} {P : Sa → Delivery → Prop} {E : Sa → Effect → Prop}
  (hrefl : ∀ sa, R sa sa) (htrans : ∀ a b c, R a b → R b c → R a c)
  (hP : ∀ a b d, R a b → P a d → P b d) (hE : ∀ a b e, R a b → E b e → E a e)
  (hstep : ∀ sa d, P sa d → R sa (d.saInput h sa).1 ∧ ∀ e ∈ (d.saInput h sa).2, E sa e)
include hrefl hstep

/-- the step lemma: any datagram, whichever SA it goes to -/
theorem step_keeps {sas : List Sa} {k : Nat} {sa : Sa} (hk : sas[k]? = some sa) {d : Delivery}
    (hd : P sa d) :
    ∃ sa', (d.input h sas).sas[k]? = some sa' ∧ R sa sa'
      ∧ (findSa sas d.datagram.octets = some k → ∀ e ∈ (d.input h sas).effects, E sa e) := by
  have hlt : k < sas.length := (List.getElem?_eq_some_iff.mp hk).1
  cases hfind : findSa sas d.datagram.octets with
  | none => exact ⟨sa, ikev2Input_missed hfind hk, hrefl sa, fun h => absurd h (by simp)⟩
  | some j =>
    obtain ⟨saj, hj, _⟩ := findSa_some hfind
    unfold Delivery.input
    rw [ikev2Input_found hfind hj]
    by_cases hjk : j = k
    · subst hjk
      obtain rfl : saj = sa := Option.some.inj (hj.symm.trans hk)
      obtain ⟨h1, h2⟩ := hstep saj d hd
      exact ⟨(d.saInput h saj).1, List.getElem?_set_self hlt, h1, fun _ => h2⟩
    · refine ⟨sa, ?_, hrefl sa, fun h => absurd (Option.some.inj h) hjk⟩
      rw [List.getElem?_set_ne hjk]
      exact hk

include htrans hP hE

/-- the run lemma: the SA at position `k` of every state of the run is related to the one at the
start, and all it sends is allowed for the one at the start -/
theorem run_keeps (ds : List Delivery) :
    ∀ {sas : List Sa} {k : Nat} {sa : Sa}, sas[k]? = some sa → (∀ d ∈ ds, P sa d) →
      ∀ st ∈ runInput h sas ds, ∃ sa', st.outcome.sas[k]? = some sa' ∧ R sa sa'
        ∧ (findSa st.before st.delivery.datagram.octets = some k →
          ∀ e ∈ st.outcome.effects, E sa e) := by
  induction ds with
  | nil =>
    intro sas k sa hk hall st hst
    exact absurd hst (by simp [runInput])
  | cons d ds ih =>
    intro sas k sa hk hall st hst
    obtain ⟨sa1, hk1, hR1, hE1⟩ :=
      step_keeps (h := h) hrefl hstep hk (hall d List.mem_cons_self)
    rw [runInput, List.mem_cons] at hst
    rcases hst with rfl | hst
    · exact ⟨sa1, hk1, hR1, hE1⟩
    · obtain ⟨sa2, hk2, hR2, hE2⟩ := ih hk1
        (fun d' hd' => hP sa sa1 d' hR1 (hall d' (List.mem_cons_of_mem _ hd'))) st hst
      exact ⟨sa2, hk2, htrans _ _ _ hR1 hR2, fun hf e he => hE _ _ _ hR1 (hE2 hf e he)⟩

end

end Ikev2
