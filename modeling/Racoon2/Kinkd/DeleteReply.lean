import Mathlib.Data.List.TakeWhile
import Racoon2.Kinkd.DeletePayload

/-!
# Every SPI is answered once

The answer to a DELETE, as the one who asked would read it.

* `answersOf`           the verdicts that a payload of the answer holds;
* `judgeAll`            the calls of the function that deletes, one after the other;
* `deleteRequest_beyond` what lies beyond the buffer does not count;
* `delete_answered`     the answer of every message.
-/

set_option linter.unusedVariables false

namespace Kink
open Bytes Rows

/-! ## words -/

theorem be16_enc16_mod (n : Nat) (rest : Bytes) : be16 (enc16 n ++ rest) 0 = n % 65536 := by
  show (UInt8.ofNat (n / 256)).toNat * 256 + (UInt8.ofNat n).toNat = _
  rw [UInt8.toNat_ofNat', UInt8.toNat_ofNat']
  omega

theorem be32_enc32_mod (n : Nat) (rest : Bytes) : be32 (enc32 n ++ rest) 0 = n % 2 ^ 32 := by
  have hhigh : be16 (enc32 n ++ rest) 0 = n / 65536 % 65536 := by
    rw [enc32, List.append_assoc]
    exact be16_enc16_mod (n / 65536) (enc16 n ++ rest)
  have hlow : be16 (enc32 n ++ rest) 2 = n % 65536 := by
    rw [enc32, List.append_assoc]
    show be16 (enc16 (n / 65536) ++ (enc16 n ++ rest)) ((enc16 (n / 65536)).length + 0) = _
    rw [be16_append_right]
    exact be16_enc16_mod n rest
  unfold be32
  rw [hhigh, hlow]
  omega

/-- words in a row -/
theorem words_read (head tail : Bytes) (ns : List Nat) :
    ((List.range ns.length).map fun i => be32 (head ++ (ns.flatMap enc32 ++ tail))
      (head.length + 4 * i))
      = ns.map (· % 2 ^ 32) := by
  induction ns generalizing head with
  | nil => rfl
  | cons n ns ih =>
    have hsplit : head ++ ((n :: ns).flatMap enc32 ++ tail) = (head ++ enc32 n)
        ++ (ns.flatMap enc32 ++ tail) := by
      rw [List.flatMap_cons, List.append_assoc, List.append_assoc]
    have hih := ih (head ++ enc32 n)
    rw [← hsplit] at hih
    rw [List.length_cons, List.range_succ_eq_map, List.map_cons, List.map_map, List.map_cons, ← hih]
    refine congrArg₂ List.cons ?_ ?_
    · rw [hsplit, List.append_assoc, be32_append_right]
      exact be32_enc32_mod n _
    · refine List.map_congr_left fun i _ => ?_
      show be32 _ (head.length + 4 * (i + 1)) = be32 _ ((head ++ enc32 n).length + 4 * i)
      rw [List.length_append, enc32_length, Nat.add_assoc, Nat.mul_succ, Nat.add_comm (4 * i)]

/-! ## the payloads of the answer -/

/-- what a payload of the answer says: protocol, verdict and SPI -/
def answersOf (x : Item) : List (Nat × Nat × Nat) :=
  if x.type = nptypeD then
    (List.range (be16 x.rest 9)).map fun i => ((byteAt x.rest 7).toNat, 0, be32 x.rest (11 + 4 * i))
  else [((byteAt x.rest 7).toNat, be16 x.rest 9, be32 x.rest 11)]

theorem answersOf_deleteItem (protoId : UInt8) {spis : List Nat} (h : spis.length < 65536) :
    answersOf (deleteItem protoId spis) = spis.map fun spi => (protoId.toNat, 0, spi % 2 ^ 32) := by
  have hnum : be16 (deleteItem protoId spis).rest 9 = spis.length := be16_enc16 h (spis.flatMap enc32)
  have hwords := words_read (0 :: (enc16 (12 + 4 * spis.length) ++ (enc32 1 ++ [protoId, 4]
    ++ enc16 spis.length))) [] spis
  rw [List.append_nil] at hwords
  have htype : (deleteItem protoId spis).type = nptypeD := rfl
  unfold answersOf
  rw [if_pos htype, hnum]
  have hmap : (spis.map fun spi => (protoId.toNat, 0, spi % 2 ^ 32))
      = (spis.map (· % 2 ^ 32)).map fun spi => (protoId.toNat, 0, spi) := by
    rw [List.map_map]
    rfl
  rw [hmap, ← hwords, List.map_map]
  rfl

theorem answersOf_notifyItem (protoId : UInt8) (v : Nat × Nat) :
    answersOf (notifyItem protoId v) = [(protoId.toNat, v.1 % 65536, v.2 % 2 ^ 32)] := by
  have htype : be16 (notifyItem protoId v).rest 9 = v.1 % 65536 := be16_enc16_mod v.1 (enc32 v.2)
  have hspi : be32 (notifyItem protoId v).rest 11 = v.2 % 2 ^ 32 := by
    have := be32_enc32_mod v.2 []
    rw [List.append_nil] at this
    exact this
  have hne : (notifyItem protoId v).type ≠ nptypeD := by
    show nptypeN ≠ nptypeD
    decide
  unfold answersOf
  rw [if_neg hne, htype, hspi]
  rfl

/-- a verdict on the wire -/
def wireVerdict (protoId : UInt8) (v : Nat × Nat) : Nat × Nat × Nat :=
  (protoId.toNat, v.1 % 65536, v.2 % 2 ^ 32)

theorem answersOf_answerItems (protoId : UInt8) {vs : List (Nat × Nat)} (h : vs.length < 65536) :
    ((answerItems protoId vs).flatMap answersOf).Perm (vs.map (wireVerdict protoId)) := by
  have hdeleted : (if deleted vs = [] then [] else [deleteItem protoId (deleted vs)]).flatMap answersOf
      = (vs.filter fun v => v.1 = 0).map (wireVerdict protoId) := by
    have hmap : (vs.filter fun v => v.1 = 0).map (wireVerdict protoId)
        = (deleted vs).map fun spi => (protoId.toNat, 0, spi % 2 ^ 32) := by
      unfold deleted
      rw [List.map_map]
      refine List.map_congr_left fun v hv => ?_
      have hzero : v.1 = 0 := of_decide_eq_true (List.mem_filter.mp hv).2
      show (protoId.toNat, v.1 % 65536, v.2 % 2 ^ 32) = _
      rw [hzero]
      rfl
    rw [hmap]
    by_cases hnil : deleted vs = []
    · rw [if_pos hnil, hnil]
      rfl
    · have hlen : (deleted vs).length < 65536 := by
        have hle := List.length_filter_le (fun v : Nat × Nat => decide (v.1 = 0)) vs
        unfold deleted
        rw [List.length_map]
        omega
      rw [if_neg hnil, List.flatMap_singleton, answersOf_deleteItem protoId hlen]
  have hrefused : (notifyItems protoId vs).flatMap answersOf
      = (vs.filter fun v => v.1 ≠ 0).map (wireVerdict protoId) := by
    unfold notifyItems refused
    rw [List.flatMap_map]
    induction vs.filter fun v => v.1 ≠ 0 with
    | nil => rfl
    | cons v rest ih =>
      rw [List.flatMap_cons, ih, answersOf_notifyItem]
      rfl
  unfold answerItems
  rw [List.flatMap_append, hdeleted, hrefused, ← List.map_append]
  refine List.Perm.map _ ?_
  have hfilter : (vs.filter fun v => v.1 ≠ 0) = vs.filter fun v => !decide (v.1 = 0) := by
    refine List.filter_congr fun v _ => ?_
    exact decide_not
  rw [hfilter]
  exact List.filter_append_perm _ vs

/-! ## the calls -/

/-- the protocol and the SPIs that a payload asks to delete -/
def DeleteRequest.asked : DeleteRequest → List (Nat × Nat)
  | .delete d spis => spis.map fun spi => (d.protoId.toNat, spi)
  | _ => []

section
variable {σ : Type} (func : DeleteFunc σ)

/-- one call after the other, with the verdicts as they go on the wire -/
def judgeAll : σ → List (Nat × Nat) → σ × List (Nat × Nat × Nat)
  | s, [] => (s, [])
  | s, a :: rest =>
    let r := func a.1 a.2 s
    let j := judgeAll r.2.2 rest
    (j.1, (a.1, r.1 % 65536, r.2.1 % 2 ^ 32) :: j.2)

theorem judgeAll_append (as bs : List (Nat × Nat)) (s : σ) :
    judgeAll func s (as ++ bs)
      = ((judgeAll func (judgeAll func s as).1 bs).1,
        (judgeAll func s as).2 ++ (judgeAll func (judgeAll func s as).1 bs).2) := by
  induction as generalizing s with
  | nil => rfl
  | cons a as ih =>
    rw [List.cons_append, judgeAll, judgeAll, ih]
    rfl

theorem judge_eq (protoId : UInt8) (spis : List Nat) (s : σ) :
    judgeAll func s (spis.map fun spi => (protoId.toNat, spi))
        = ((judge func protoId.toNat s spis).1,
          (judge func protoId.toNat s spis).2.map (wireVerdict protoId)) ∧
      (judge func protoId.toNat s spis).2.length = spis.length := by
  induction spis generalizing s with
  | nil => exact ⟨rfl, rfl⟩
  | cons spi spis ih =>
    obtain ⟨hall, hlength⟩ := ih (func protoId.toNat spi s).2.2
    rw [List.map_cons, judgeAll, judge, hall, List.length_cons, List.length_cons, hlength]
    exact ⟨rfl, rfl⟩

/-! ## the whole message -/

/-- the payload does not end the loop -/
def DeleteRequest.taken : DeleteRequest → Bool
  | .unexpected => false
  | .ipcomp => false
  | _ => true

theorem deleteItem_fits (protoId : UInt8) {spis : List Nat} (h : 12 + 4 * spis.length < 65536) :
    ItemFits (deleteItem protoId spis) := by
  have hwords : (spis.flatMap enc32).length = 4 * spis.length := by
    induction spis with
    | nil => rfl
    | cons n ns ih =>
      rw [List.flatMap_cons, List.length_append, enc32_length, List.length_cons]
      rw [List.length_cons] at h
      rw [ih (by omega)]
      omega
  have hbody : (enc32 1 ++ [protoId, 4] ++ enc16 spis.length ++ spis.flatMap enc32).length
      = 8 + 4 * spis.length := by
    rw [List.length_append, hwords]
    rfl
  refine ⟨0, enc32 1 ++ [protoId, 4] ++ enc16 spis.length ++ spis.flatMap enc32, ?_, ?_, ?_, ?_⟩
  · unfold payloadItem
    rw [hbody, ← Nat.add_assoc]
    rfl
  · intro hnil
    rw [hnil] at hbody
    have : 0 = 8 + 4 * spis.length := hbody
    omega
  · rw [hbody]
    omega
  · show nptypeD ≠ 0
    decide

theorem notifyItem_fits (protoId : UInt8) (v : Nat × Nat) : ItemFits (notifyItem protoId v) := by
  refine ⟨0, enc32 1 ++ [protoId, 4] ++ enc16 v.1 ++ enc32 v.2, rfl, ?_, ?_, ?_⟩
  · exact List.cons_ne_nil _ _
  · show 4 + 12 < 65536
    decide
  · show nptypeN ≠ 0
    decide

theorem answerItems_fits (protoId : UInt8) {vs : List (Nat × Nat)} (h : 12 + 4 * vs.length < 65536) :
    ∀ x ∈ answerItems protoId vs, ItemFits x := by
  intro x hx
  unfold answerItems at hx
  rcases List.mem_append.mp hx with hx | hx
  · by_cases hnil : deleted vs = []
    · rw [if_pos hnil] at hx
      cases hx
    · rw [if_neg hnil] at hx
      rw [List.mem_singleton.mp hx]
      refine deleteItem_fits protoId ?_
      have hle := List.length_filter_le (fun v : Nat × Nat => decide (v.1 = 0)) vs
      unfold deleted
      rw [List.length_map]
      omega
  · obtain ⟨v, -, rfl⟩ := List.mem_map.mp hx
    exact notifyItem_fits protoId v

/-- what the row of the answers says, and how far the function was called -/
theorem serve_spec (reqs : List DeleteRequest) : RequestsAsk reqs → ∀ s : σ,
    (reqs.all DeleteRequest.taken = false ∧
      ∃ e, serve func reqs s = .error
        ((judgeAll func s ((reqs.takeWhile DeleteRequest.taken).flatMap DeleteRequest.asked)).1, e)) ∨
    (reqs.all DeleteRequest.taken = true ∧
      ∃ items, serve func reqs s = .ok ((judgeAll func s (reqs.flatMap DeleteRequest.asked)).1, items) ∧
        (items.flatMap answersOf).Perm (judgeAll func s (reqs.flatMap DeleteRequest.asked)).2 ∧
        ∀ x ∈ items, ItemFits x) := by
  induction reqs with
  | nil => exact fun _ s => .inr ⟨rfl, [], rfl, .nil, fun x hx => by cases hx⟩
  | cons r reqs ih =>
    intro hask s
    cases r with
    | unexpected => exact .inl ⟨rfl, ntypePayloadMalformed, rfl⟩
    | ipcomp => exact .inl ⟨rfl, internalError, rfl⟩
    | ignored => exact ih hask.tail s
    | delete d spis =>
      obtain ⟨-, -, hspis, hlen, hbound, -⟩ := hask d spis List.mem_cons_self
      obtain ⟨hjudge, hlength⟩ := judge_eq func d.protoId spis s
      have hfit : 12 + 4 * (judge func d.protoId.toNat s spis).2.length < 65536 := by
        rw [hlength, hspis]
        exact hlen ▸ hbound
      -- the calls for this payload, then those for the others
      have hsplit : ∀ as, judgeAll func s ((DeleteRequest.delete d spis).asked ++ as)
          = ((judgeAll func (judge func d.protoId.toNat s spis).1 as).1,
            (judge func d.protoId.toNat s spis).2.map (wireVerdict d.protoId)
              ++ (judgeAll func (judge func d.protoId.toNat s spis).1 as).2) := by
        intro as
        have happend := judgeAll_append func (spis.map fun spi => (d.protoId.toNat, spi)) as s
        rw [hjudge] at happend
        exact happend
      have hserve : serve func (.delete d spis :: reqs) s
          = (serve func reqs (judge func d.protoId.toNat s spis).1).map fun r =>
            (r.1, answerItems d.protoId (judge func d.protoId.toNat s spis).2 ++ r.2) := rfl
      rcases ih hask.tail (judge func d.protoId.toNat s spis).1 with ⟨hall, e, herror⟩ | ⟨hall, items, hok, hperm, hfits⟩
      · refine .inl ⟨hall, e, ?_⟩
        rw [hserve, herror]
        show _ = Except.error ((judgeAll func s ((DeleteRequest.delete d spis).asked ++ _)).1, e)
        rw [hsplit]
        rfl
      · refine .inr ⟨hall, answerItems d.protoId (judge func d.protoId.toNat s spis).2 ++ items, ?_, ?_, ?_⟩
        · rw [hserve, hok, List.flatMap_cons, hsplit]
          rfl
        · rw [List.flatMap_cons, hsplit, List.flatMap_append]
          exact (answersOf_answerItems d.protoId (by omega)).append hperm
        · intro x hx
          rcases List.mem_append.mp hx with hx | hx
          · exact answerItems_fits d.protoId hfit x hx
          · exact hfits x hx

end

/-! ## what lies beyond the buffer -/

theorem PlD.read_append {b : Bytes} (h : PlD.size ≤ b.length) (c : Bytes) :
    PlD.read (b ++ c) = PlD.read b := by
  have hb : ∀ i, i < 12 → byteAt (b ++ c) i = byteAt b i :=
    fun i hi => byteAt_append_left b c i (Nat.lt_of_lt_of_le hi h)
  simp (disch := decide) only [PlD.read, be32, be16, hb]

theorem deleteRequest_short {pa : Parsed} (h : pa.Inside) (hshort : pa.ptr.length < PlD.size)
    (htype : pa.type = nptypeD) (beyond : Bytes) : deleteRequest beyond pa = .ignored := by
  obtain ⟨hlen, hfour, hinside⟩ := h
  have hsize : PlD.size = 12 := rfl
  have hbe : be16 (pa.ptr ++ beyond) 2 = be16 pa.ptr 2 := by
    unfold be16
    rw [byteAt_append_left _ _ _ (by omega), byteAt_append_left _ _ _ (by omega)]
  have hneg : ((PlD.read (pa.ptr ++ beyond)).len : Int) - PlD.size
      ≠ (PlD.read (pa.ptr ++ beyond)).numSpi * (PlD.read (pa.ptr ++ beyond)).spiSize.toNat := by
    show (be16 (pa.ptr ++ beyond) 2 : Int) - PlD.size ≠ _
    rw [hbe]
    have hpos : 0 ≤ ((PlD.read (pa.ptr ++ beyond)).numSpi : Int)
        * ((PlD.read (pa.ptr ++ beyond)).spiSize.toNat : Int) := Int.mul_nonneg (by omega) (by omega)
    omega
  unfold deleteRequest
  rw [if_neg (not_not.mpr htype)]
  dsimp only
  by_cases hdoi : (PlD.read (pa.ptr ++ beyond)).doi ≠ 1
  · rw [if_pos hdoi]
  · rw [if_neg hdoi, if_pos hneg]

/-- the header that ends beyond the buffer belongs to a payload that is ignored -/
theorem deleteRequest_beyond {pa : Parsed} (h : pa.Inside) (beyond : Bytes) :
    deleteRequest beyond pa = deleteRequest [] pa := by
  by_cases htype : pa.type = nptypeD
  · by_cases hlong : PlD.size ≤ pa.ptr.length
    · unfold deleteRequest
      rw [PlD.read_append hlong, PlD.read_append hlong]
    · have hshort := Nat.lt_of_not_le hlong
      rw [deleteRequest_short h hshort htype, deleteRequest_short h hshort htype]
  · unfold deleteRequest
    rw [if_pos htype, if_pos htype]

/-! ## every message -/

/-- the payload does not end the loop -/
def Parsed.taken (pa : Parsed) : Bool := (deleteRequest [] pa).taken

/-- the protocols and the SPIs that payloads ask to delete, in their order -/
def asked (pas : List Parsed) : List (Nat × Nat) := pas.flatMap fun pa => (deleteRequest [] pa).asked

section
variable {σ : Type} (func : DeleteFunc σ) (beyond : Bytes) {msg : Bytes} {np : UInt8}

theorem recvD_none (s : σ) (hparse : isakmpParseNoheader msg np = none) :
    isakmpInfoRecvD func beyond msg np s = (s, .error internalError) := by
  unfold isakmpInfoRecvD
  rw [hparse]

/-- the loop over the payloads of a message, without what lies beyond the buffer -/
theorem recvD_some (s : σ) {pas : List Parsed} (hparse : isakmpParseNoheader msg np = some pas) :
    (pas.all Parsed.taken = false ∧
      ∃ e, isakmpInfoRecvD func beyond msg np s
        = ((judgeAll func s (asked (pas.takeWhile Parsed.taken))).1, .error e)) ∨
    (pas.all Parsed.taken = true ∧
      ∃ items, isakmpInfoRecvD func beyond msg np s
          = ((judgeAll func s (asked pas)).1, .ok (headType 0 items, octets 0 items)) ∧
        (items.flatMap answersOf).Perm (judgeAll func s (asked pas)).2 ∧
        ∀ x ∈ items, ItemFits x) := by
  have hinside : ∀ pa ∈ pas, pa.Inside := isakmpParsewoh_inside _ _ _ _ hparse
  have hreqs : pas.map (deleteRequest beyond) = pas.map (deleteRequest []) :=
    List.map_congr_left fun pa hpa => deleteRequest_beyond (hinside pa hpa) beyond
  have hall : (pas.map (deleteRequest [])).all DeleteRequest.taken = pas.all Parsed.taken := by
    rw [List.all_map]
    rfl
  have hasked : ((pas.map (deleteRequest [])).takeWhile DeleteRequest.taken).flatMap
      DeleteRequest.asked
      = asked (pas.takeWhile Parsed.taken) := by
    rw [List.takeWhile_map, List.flatMap_map]
    rfl
  have hasked' : (pas.map (deleteRequest [])).flatMap DeleteRequest.asked = asked pas := by
    rw [List.flatMap_map]
    rfl
  have hrecv := recvD_eq func beyond s hparse
  rw [hreqs] at hrecv
  have hspec := serve_spec func _ (requestsAsk_map [] pas) s
  rw [hall, hasked, hasked'] at hspec
  rcases hspec with ⟨hnot, e, herror⟩ | ⟨hyes, items, hok, hperm, hfits⟩
  · exact .inl ⟨hnot, e, hrecv.1 _ _ herror⟩
  · exact .inr ⟨hyes, items, hrecv.2 _ _ hok, hperm, hfits⟩

theorem takeWhile_taken {pas : List Parsed} (h : pas.all Parsed.taken = true) :
    pas.takeWhile Parsed.taken = pas :=
  List.takeWhile_eq_self_iff.mpr (List.all_eq_true.mp h)

theorem recvD_state (s : σ) {pas : List Parsed} (hparse : isakmpParseNoheader msg np = some pas) :
    (isakmpInfoRecvD func beyond msg np s).1 =
    (judgeAll func s (asked (pas.takeWhile Parsed.taken))).1 := by
  rcases recvD_some func beyond s hparse with ⟨-, e, hrecv⟩ | ⟨hyes, items, hrecv, -⟩
  · rw [hrecv]
  · rw [hrecv, takeWhile_taken hyes]

end

end Kink
