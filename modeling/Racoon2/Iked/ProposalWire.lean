import Racoon2.Iked.ProposalGrammar
import Racoon2.Iked.Addke

/-!
# SAr on the wire, and the rounds both ends read from it

`ikev2_ikesa_to_proposal` packs the negotiated IKE SA and `ikev2_parse_sa` reads it back.  Three
places number the additional key exchanges: `ikev2_proppair_to_isakmpsa` by the transform type, with
holes, the packer by the type, without the rounds that are NONE, and `ikev2_addke_collect_rounds`
without holes.

* `parsedSa_packed`           the initiator reads the transforms that were packed;
* `addke_rounds_agree_iff`    when the three lists of rounds are the same.
-/

set_option linter.unusedVariables false

namespace Ikev2
open Bytes

/-! ## packing -/

/-- a transform for every round that is not NONE; one alone may come from `addke` -/
def packAddke (sa : IsakmpSa) : List Selected :=
  if sa.addkeNrounds ≤ 1 ∧ sa.addke ≠ 0 ∧ (sa.addkeNrounds = 0 ∨ sa.method 0 = sa.addke) then
    [⟨transformAddke, ⟨sa.addke, []⟩⟩]
  else
    (List.range sa.addkeNrounds).filterMap fun r =>
      if sa.method r = 0 then none else some ⟨transformAddke + r, ⟨sa.method r, []⟩⟩

/-- the transforms that `ikev2_ikesa_to_proposal_sub` writes -/
def packed (sa : IsakmpSa) : List Selected :=
  (if sa.encr = 0 then []
    else [⟨transformEncr, ⟨sa.encr,
      if sa.encrklen = 0 then [] else [.short attrKeyLength sa.encrklen]⟩⟩])
  ++ (if sa.prf = 0 then [] else [⟨transformPrf, ⟨sa.prf, []⟩⟩])
  ++ (if sa.integr = 0 then [] else [⟨transformIntegr, ⟨sa.integr, []⟩⟩])
  ++ (match sa.dhdef with
    | none => []
    | some id => [⟨transformDh, ⟨id, []⟩⟩])
  ++ packAddke sa

/-- a proposal header with its SPI; it is the last proposal -/
def proposalHeader (number : Nat) (spi : Bytes) (len count : Nat) : Bytes :=
  [0, 0] ++ enc16 len ++ [UInt8.ofNat number, UInt8.ofNat proposalIke, UInt8.ofNat spi.length,
    UInt8.ofNat count] ++ spi

/-- `ikev2_ikesa_to_proposal` -/
def ikesaToProposal (sa : IsakmpSa) (spi : Bytes) : Bytes :=
  proposalHeader sa.propNo spi (8 + spi.length + (encodeTransforms (packed sa)).length)
      (packed sa).length
    ++ encodeTransforms (packed sa)

/-! ## reading what was packed -/

/-- the fields of a transform fit their octets, and its only attribute is a key length -/
structure Selected.Fits (s : Selected) : Prop where
  type : s.type < 256
  id : s.transform.id < 65536
  attrs : s.transform.attrs = [] ∨ ∃ k < 65536, s.transform.attrs = [.short attrKeyLength k]

theorem Selected.Fits.attrOctets_length {s : Selected} (h : s.Fits) :
    (attrOctets s).length ≤ 4 := by
  unfold attrOctets
  rcases h.attrs with hnone | ⟨k, -, hk⟩
  · rw [hnone]
    exact Nat.zero_le _
  · rw [hk]
    exact Nat.le_refl _

theorem Selected.Fits.wf {s : Selected} (h : s.Fits) : (plainTransform s).Wf := by
  have hlen := h.attrOctets_length
  refine ⟨h.type, h.id, ?_, Nat.lt_of_le_of_lt (Nat.add_le_add_left hlen 8) (by decide)⟩
  intro a ha
  rcases h.attrs with hnone | ⟨k, hk, hattrs⟩
  · rw [show (plainTransform s).sel.transform.attrs = [] from hnone] at ha
    cases ha
  · rw [show (plainTransform s).sel.transform.attrs = [.short attrKeyLength k] from hattrs] at ha
    rw [List.mem_singleton.mp ha]
    exact ⟨by decide, hk⟩

section
variable {ts : List Selected}

theorem encodeTransforms_wire (ts : List Selected) :
    encodeTransforms ts = wireTransforms (ts.map plainTransform) := by
  induction ts with
  | nil => rfl
  | cons s ss ih =>
    cases ss with
    | nil => rfl
    | cons s' ss' =>
      show encodeTransform transformMore s ++ encodeTransforms (s' :: ss') = _
      rw [ih]
      rfl

theorem encodeTransforms_length (h : ∀ s ∈ ts, s.Fits) :
    (encodeTransforms ts).length ≤ 12 * ts.length := by
  rw [encodeTransforms_wire]
  induction ts with
  | nil => exact Nat.le_refl _
  | cons s ss ih =>
    have hlen : (attrOctets (plainTransform s).sel).length ≤ 4 :=
      (h s List.mem_cons_self).attrOctets_length
    have hrest := ih fun x hx => h x (List.mem_cons_of_mem _ hx)
    rw [List.map_cons, wireTransforms_cons, List.length_append, wireTransform_length,
      List.length_cons]
    omega

/-- the one proposal of an answer -/
def answerProposal (number count : Nat) (spi : Bytes) (ts : List Selected) : WireProposal :=
  ⟨0, number, proposalIke, count, spi, ts.map plainTransform⟩

theorem proposalHeader_wire (number count : Nat) (spi : Bytes) (ts : List Selected) :
    proposalHeader number spi (8 + spi.length + (encodeTransforms ts).length) count
        ++ encodeTransforms ts
      = wireProposal 0 (answerProposal number count spi ts) := by
  rw [encodeTransforms_wire]
  rfl

/-- `ikev2_parse_sa` on what `ikev2_ikesa_to_proposal` packed -/
theorem parseSa_packed {number : Nat} {spi : Bytes} (hne : ts ≠ []) (hfits : ∀ s ∈ ts, s.Fits)
    (hnumber : number < 256) (hspi : spi.length < 256) (hcount : ts.length < 256) :
    parseSa spi.length (proposalHeader number spi (8 + spi.length + (encodeTransforms ts).length)
        ts.length ++ encodeTransforms ts)
      = some fun n => if n = number then [⟨proposalIke, spi, groupTransforms ts⟩] else [] := by
  have hbound := encodeTransforms_length hfits
  have hwf : (answerProposal number ts.length spi ts).Wf := by
    refine ⟨hnumber, show proposalIke < 256 by decide, hcount, hspi, ?_, ?_, ?_⟩
    · exact fun hnil => hne (List.map_eq_nil_iff.mp hnil)
    · intro w hw
      obtain ⟨s, hs, rfl⟩ := List.mem_map.mp hw
      exact (hfits s hs).wf
    · show 8 + spi.length + (wireTransforms (ts.map plainTransform)).length < 65536
      rw [← encodeTransforms_wire]
      omega
  have hsa : SaProposals spi.length [answerProposal number ts.length spi ts] := by
    refine ⟨List.cons_ne_nil _ _, List.forall_mem_singleton.mpr ⟨hwf, ?_, ?_⟩,
      List.pairwise_singleton _ _⟩
    · exact fun hzero => hne (List.length_eq_zero_iff.mp hzero)
    · show checkSpiSize spi.length proposalIke spi.length = true
      unfold checkSpiSize
      rw [if_pos rfl]
      exact beq_self_eq_true _
  have hproto : (answerProposal number ts.length spi ts).proto
      = ⟨proposalIke, spi, groupTransforms ts⟩ := by
    unfold WireProposal.proto answerProposal
    dsimp only
    rw [List.map_map]
    congr 2
    exact List.map_id _
  rw [proposalHeader_wire]
  refine (parseSa_wireProposals hsa).trans (congrArg some (funext fun n => ?_))
  unfold protosOf
  by_cases hn : n = number
  · have hbeq : ((answerProposal number ts.length spi ts).number == n) = true :=
      beq_iff_eq.mpr hn.symm
    rw [if_pos hn, List.filter_cons, if_pos hbeq, List.filter_nil, List.map_singleton, hproto]
  · have hbeq : ¬ ((answerProposal number ts.length spi ts).number == n) = true :=
      fun hbeq => hn (beq_iff_eq.mp hbeq).symm
    rw [if_neg hn, List.filter_cons, if_neg hbeq]
    rfl

/-- one transform of each type, in order: they are the heads of their groups -/
theorem heads_groupTransforms (hasc : (ts.map Selected.type).Pairwise (· < ·))
    (hoctet : ∀ s ∈ ts, s.type < 256) : heads (groupTransforms ts) = ts := by
  unfold heads groupTransforms
  rw [List.filterMap_filterMap]
  refine (List.filterMap_congr (g := fun type => ts.find? (·.type == type)) ?_).trans ?_
  · intro type _
    rw [← List.head?_filter]
    cases hfilter : ts.filter (·.type == type) with
    | nil => rfl
    | cons s ss =>
      have hs : s ∈ ts.filter (·.type == type) := by
        rw [hfilter]
        exact List.mem_cons_self
      have htype : s.type = type := by simpa using (List.mem_filter.mp hs).2
      show some (⟨type, s.transform⟩ : Selected) = some s
      rw [← htype]
  · rw [List.range_eq_range']
    apply filterMap_find_ascending Selected.type 256 0 ts hasc
    intro s hs
    exact ⟨Nat.zero_le _, by rw [Nat.zero_add]; exact hoctet s hs⟩

end

/-! ## the lists of rounds -/

/-- a selected IKE proposal: what `get_uint16` and the number's octet can hold -/
structure IkeSelection where
  number : Nat
  transforms : List Selected
  number_octet : number < 256
  distinct : (transforms.map Selected.type).Nodup
  ids : ∀ s ∈ transforms, s.transform.id < 65536
  keylens : ∀ s ∈ transforms, keyLength s.transform.attrs < 65536

/-- the SPI of a rekey, or none for the initial SA -/
structure IkeSpi where
  octets : Bytes
  size : octets.length = 0 ∨ octets.length = 8

/-- `addke_methods[0 .. addke_nrounds)` -/
def IsakmpSa.roundList (sa : IsakmpSa) : List Nat := (List.range sa.addkeNrounds).map sa.method

/-- the methods of the selected ADDKE types in order, without NONE -/
def nonNoneMethods (ts : List Selected) : List Nat :=
  ((List.range 7).map fun r => methodOf ts (transformAddke + r)).filter (· ≠ addkeNone)

/-- The additional key exchanges are ADDKE1 to ADDKEn for some n, none of them is NONE and no method
comes twice; and there is a transform to pack. -/
structure RoundsPlain (groups : List Nat) (ts : List Selected) : Prop where
  gapless : ∃ n, ∀ r, r < 7 → ((∃ s ∈ ts, s.type = transformAddke + r) ↔ r < n)
  no_none : ∀ s ∈ ts, isAddke s.type = true → s.transform.id ≠ addkeNone
  no_repeat : ∀ s ∈ ts, ∀ s' ∈ ts, isAddke s.type = true → isAddke s'.type = true →
    s.transform.id = s'.transform.id → s.type = s'.type
  some_packed : ∃ s ∈ ts,
    if s.type = transformDh then s.transform.id ∈ groups else s.transform.id ≠ 0

section
variable {groups : List Nat} {ts : List Selected} {sa : IsakmpSa}

theorem methodOf_mem {s : Selected} (hs : s ∈ ts) (hdistinct : (ts.map Selected.type).Nodup) :
    methodOf ts s.type = s.transform.id := by
  unfold methodOf
  rw [selectedOf_mem hs hdistinct]
  rfl

theorem methodOf_ne_zero {type : Nat} (h : methodOf ts type ≠ 0) :
    ∃ s ∈ ts, s.type = type ∧ s.transform.id = methodOf ts type := by
  unfold methodOf selectedOf at h ⊢
  cases hfind : ts.find? (·.type == type) with
  | none =>
    rw [hfind] at h
    exact absurd rfl h
  | some s =>
    have htype : s.type = type := by simpa using List.find?_some hfind
    exact ⟨s, List.mem_of_find?_eq_some hfind, htype, rfl⟩

/-- `ikev2_addke_collect_rounds` gives the methods without NONE, if none is repeated -/
theorem collectLoop_eq : ∀ (types acc : List Nat), acc.Nodup → collectLoop ts types acc
    = if (acc ++ (types.map (methodOf ts)).filter (· ≠ addkeNone)).Nodup
      then some (acc ++ (types.map (methodOf ts)).filter (· ≠ addkeNone)) else none := by
  intro types
  induction types with
  | nil =>
    intro acc hacc
    rw [List.map_nil, List.filter_nil, List.append_nil, if_pos hacc]
    rfl
  | cons type types ih =>
    intro acc hacc
    have hskip : methodOf ts type = addkeNone →
        ((type :: types).map (methodOf ts)).filter (· ≠ addkeNone)
          = (types.map (methodOf ts)).filter (· ≠ addkeNone) := by
      intro hnone
      rw [List.map_cons, List.filter_cons_of_neg (by simp [hnone])]
    unfold collectLoop
    cases hsel : selectedOf type ts with
    | none =>
      have hnone : methodOf ts type = addkeNone := by
        unfold methodOf
        rw [hsel]
        rfl
      rw [hskip hnone]
      exact ih acc hacc
    | some t =>
      have hmethod : methodOf ts type = t.id := by
        unfold methodOf
        rw [hsel]
        rfl
      simp only
      by_cases hnone : t.id = addkeNone
      · rw [if_pos hnone, hskip (hmethod.trans hnone)]
        exact ih acc hacc
      · have hkeep : ((type :: types).map (methodOf ts)).filter (· ≠ addkeNone)
            = t.id :: (types.map (methodOf ts)).filter (· ≠ addkeNone) := by
          rw [List.map_cons, List.filter_cons_of_pos (by simpa [hmethod] using hnone), hmethod]
        rw [if_neg hnone, hkeep]
        by_cases hmem : acc.contains t.id = true
        · have hdup : ¬ (acc ++ t.id :: (types.map (methodOf ts)).filter (· ≠ addkeNone)).Nodup := by
            intro hnodup
            exact List.disjoint_of_nodup_append hnodup (List.contains_iff_mem.mp hmem)
              List.mem_cons_self
          rw [if_pos hmem, if_neg hdup]
        · have hacc' : (acc ++ [t.id]).Nodup := by
            rw [List.nodup_append]
            refine ⟨hacc, List.nodup_singleton _, ?_⟩
            intro a ha b hb heq
            rw [List.mem_singleton.mp hb] at heq
            exact hmem (List.contains_iff_mem.mpr (heq ▸ ha))
          rw [if_neg hmem, ih _ hacc', List.append_assoc]
          rfl

theorem collectRounds_iff {spi : Bytes} {rounds : List Nat} :
    collectRounds [⟨proposalIke, spi, ts⟩] = some rounds
      ↔ rounds = nonNoneMethods ts ∧ (nonNoneMethods ts).Nodup := by
  have hloop := @collectLoop_eq ts [6, 7, 8, 9, 10, 11, 12] [] List.nodup_nil
  have hsame : ([6, 7, 8, 9, 10, 11, 12].map (methodOf ts)).filter (· ≠ addkeNone)
      = nonNoneMethods ts := rfl
  rw [List.nil_append, hsame] at hloop
  show collectLoop ts [6, 7, 8, 9, 10, 11, 12] [] = some rounds ↔ _
  rw [hloop]
  split
  · rename_i hnodup
    constructor
    · intro h
      exact ⟨(Option.some.inj h).symm, hnodup⟩
    · rintro ⟨rfl, -⟩
      rfl
  · rename_i hdup
    constructor
    · intro h
      exact absurd h (by simp)
    · rintro ⟨-, hnodup⟩
      exact absurd hnodup hdup

theorem highestRound_le_iff {n : Nat} :
    highestRound ts ≤ n ↔ ∀ s ∈ ts, roundOf s.type ≤ n := by
  constructor
  · intro h s hs
    exact (le_highestRound hs).trans h
  · intro h
    unfold highestRound
    induction ts with
    | nil => exact Nat.zero_le _
    | cons t ts ih =>
      rw [List.map_cons, List.foldr_cons, Nat.max_le]
      exact ⟨h t List.mem_cons_self, ih fun s hs => h s (List.mem_cons_of_mem _ hs)⟩

theorem roundOf_le (type : Nat) : roundOf type ≤ 7 := by
  unfold roundOf
  split
  · rename_i haddke
    have hbound := isAddke_iff.mp haddke
    omega
  · exact Nat.zero_le _

theorem roundOf_addke (r : Nat) (hr : r < 7) : roundOf (transformAddke + r) = r + 1 := by
  have haddke : isAddke (transformAddke + r) = true := isAddke_iff.mpr ⟨by omega, by omega⟩
  unfold roundOf
  rw [if_pos haddke, Nat.add_sub_cancel_left]

/-- the highest round is the round of a selected type -/
theorem highestRound_attained (h : 0 < highestRound ts) :
    ∃ s ∈ ts, s.type + 1 = transformAddke + highestRound ts := by
  by_contra hno
  have hle : highestRound ts ≤ highestRound ts - 1 := by
    rw [highestRound_le_iff]
    intro s hs
    have hround := le_highestRound hs
    by_contra hgt
    refine hno ⟨s, hs, ?_⟩
    have heq : roundOf s.type = highestRound ts := by omega
    unfold roundOf at heq
    split at heq
    · rename_i haddke
      have hbound := isAddke_iff.mp haddke
      omega
    · omega
  omega

theorem methodOf_beyond {r : Nat} (hr : highestRound ts ≤ r) (hr7 : r < 7) :
    methodOf ts (transformAddke + r) = 0 := by
  by_contra hne
  obtain ⟨s, hs, htype, -⟩ := methodOf_ne_zero hne
  have hle := le_highestRound hs
  rw [htype, roundOf_addke r hr7] at hle
  omega

theorem roundList_eq (h : Recorded sa ts) : sa.roundList
    = (List.range (highestRound ts)).map fun r => methodOf ts (transformAddke + r) := by
  have hle : highestRound ts ≤ 7 := highestRound_le_iff.mpr fun s _ => roundOf_le s.type
  unfold IsakmpSa.roundList
  rw [h.nrounds]
  apply List.map_congr_left
  intro r hr
  have hlt := List.mem_range.mp hr
  exact h.methods r (by omega)

theorem nonNoneMethods_eq : nonNoneMethods ts
    = ((List.range (highestRound ts)).map fun r => methodOf ts (transformAddke + r)).filter
        (· ≠ addkeNone) := by
  have hle : highestRound ts ≤ 7 := highestRound_le_iff.mpr fun s _ => roundOf_le s.type
  obtain ⟨k, hk⟩ : ∃ k, 7 = highestRound ts + k := ⟨7 - highestRound ts, by omega⟩
  unfold nonNoneMethods
  rw [hk, List.range_add, List.map_append, List.filter_append]
  have hrest : (((List.range k).map (highestRound ts + ·)).map
      fun r => methodOf ts (transformAddke + r)).filter (· ≠ addkeNone) = [] := by
    rw [List.filter_eq_nil_iff]
    intro x hx
    obtain ⟨r, hr, rfl⟩ := List.mem_map.mp hx
    obtain ⟨i, hi, rfl⟩ := List.mem_map.mp hr
    have hlt := List.mem_range.mp hi
    rw [methodOf_beyond (by omega) (by omega)]
    decide
  rw [hrest, List.append_nil]

/-- the responder's list is the collected one if it has no NONE and no repetition -/
theorem collect_roundList_iff {spi : Bytes} (h : Recorded sa ts) :
    collectRounds [⟨proposalIke, spi, ts⟩] = some sa.roundList
      ↔ (∀ r < highestRound ts, methodOf ts (transformAddke + r) ≠ addkeNone)
        ∧ ((List.range (highestRound ts)).map
            fun r => methodOf ts (transformAddke + r)).Nodup := by
  rw [collectRounds_iff, nonNoneMethods_eq, roundList_eq h, eq_comm, List.filter_eq_self]
  constructor
  · rintro ⟨hall, hnodup⟩
    rw [List.filter_eq_self.mpr hall] at hnodup
    refine ⟨?_, hnodup⟩
    intro r hr
    have hne := hall _ (List.mem_map_of_mem (List.mem_range.mpr hr))
    simpa using hne
  · rintro ⟨hall, hnodup⟩
    have hall' : ∀ x ∈ (List.range (highestRound ts)).map
        fun r => methodOf ts (transformAddke + r), decide (x ≠ addkeNone) = true := by
      intro x hx
      obtain ⟨r, hr, rfl⟩ := List.mem_map.mp hx
      simpa using hall r (List.mem_range.mp hr)
    refine ⟨hall', ?_⟩
    rw [List.filter_eq_self.mpr hall']
    exact hnodup

/-- the round of a selected ADDKE type, and its method -/
theorem round_of_addke {s : Selected} (hdistinct : (ts.map Selected.type).Nodup) (hs : s ∈ ts)
    (haddke : isAddke s.type = true) : ∃ r < highestRound ts,
      s.type = transformAddke + r ∧ methodOf ts (transformAddke + r) = s.transform.id := by
  have hbound := isAddke_iff.mp haddke
  have htype : s.type = transformAddke + (s.type - transformAddke) := by omega
  refine ⟨s.type - transformAddke, ?_, htype, ?_⟩
  · have hsle := le_highestRound hs
    rw [htype, roundOf_addke _ (by omega)] at hsle
    omega
  · rw [← htype]
    exact methodOf_mem hs hdistinct

/-- without a gap, every round up to the last one has a selected type -/
theorem selected_of_gapless {n : Nat}
    (hn : ∀ r, r < 7 → ((∃ s ∈ ts, s.type = transformAddke + r) ↔ r < n)) {r : Nat}
    (hr : r < highestRound ts) :
    ∃ s ∈ ts, s.type = transformAddke + r ∧ isAddke s.type = true := by
  have hle : highestRound ts ≤ 7 := highestRound_le_iff.mpr fun s _ => roundOf_le s.type
  obtain ⟨last, hlastmem, hlasttype⟩ := @highestRound_attained ts (by omega)
  have hlast : highestRound ts - 1 < n := by
    rw [← hn _ (by omega)]
    exact ⟨last, hlastmem, by omega⟩
  obtain ⟨s, hs, htype⟩ := (hn r (by omega)).mpr (by omega)
  refine ⟨s, hs, htype, ?_⟩
  rw [htype]
  exact isAddke_iff.mpr ⟨by omega, by omega⟩

theorem rounds_iff (hdistinct : (ts.map Selected.type).Nodup) :
    ((∀ r < highestRound ts, methodOf ts (transformAddke + r) ≠ addkeNone)
      ∧ ((List.range (highestRound ts)).map fun r => methodOf ts (transformAddke + r)).Nodup)
    ↔ (∃ n, ∀ r, r < 7 → ((∃ s ∈ ts, s.type = transformAddke + r) ↔ r < n))
      ∧ (∀ s ∈ ts, isAddke s.type = true → s.transform.id ≠ addkeNone)
      ∧ ∀ s ∈ ts, ∀ s' ∈ ts, isAddke s.type = true → isAddke s'.type = true →
          s.transform.id = s'.transform.id → s.type = s'.type := by
  constructor
  · rintro ⟨hall, hnodup⟩
    refine ⟨⟨highestRound ts, ?_⟩, ?_, ?_⟩
    · intro r hr
      constructor
      · rintro ⟨s, hs, htype⟩
        have hsle := le_highestRound hs
        rw [htype, roundOf_addke r hr] at hsle
        omega
      · intro hlt
        obtain ⟨s, hs, htype, -⟩ := methodOf_ne_zero (hall r hlt)
        exact ⟨s, hs, htype⟩
    · intro s hs haddke
      obtain ⟨r, hr, -, hmethod⟩ := round_of_addke hdistinct hs haddke
      rw [← hmethod]
      exact hall r hr
    · intro s hs s' hs' haddke haddke' hid
      obtain ⟨r, hr, htype, hmethod⟩ := round_of_addke hdistinct hs haddke
      obtain ⟨r', hr', htype', hmethod'⟩ := round_of_addke hdistinct hs' haddke'
      have hsame : r = r' := List.inj_on_of_nodup_map hnodup (List.mem_range.mpr hr)
        (List.mem_range.mpr hr') (hmethod.trans (hid.trans hmethod'.symm))
      rw [htype, htype', hsame]
  · rintro ⟨⟨n, hn⟩, hnone, hrepeat⟩
    constructor
    · intro r hr
      obtain ⟨s, hs, htype, haddke⟩ := selected_of_gapless hn hr
      rw [← htype, methodOf_mem hs hdistinct]
      exact hnone s hs haddke
    · apply List.Nodup.map_on _ List.nodup_range
      intro r hr r' hr' heq
      rw [List.mem_range] at hr hr'
      obtain ⟨s, hs, htype, haddke⟩ := selected_of_gapless hn hr
      obtain ⟨s', hs', htype', haddke'⟩ := selected_of_gapless hn hr'
      have hid : s.transform.id = s'.transform.id := by
        rw [← methodOf_mem hs hdistinct, ← methodOf_mem hs' hdistinct, htype, htype']
        exact heq
      have htypes := hrepeat s hs s' hs' haddke haddke' hid
      omega

end

/-! ## the packed transforms -/

section
variable {groups : List Nat} {ts : List Selected} {sa : IsakmpSa}

/-- a round for every method that is not NONE; the single round is no exception -/
theorem packAddke_eq (h : Recorded sa ts) : packAddke sa
    = (List.range sa.addkeNrounds).filterMap fun r =>
        if sa.method r = 0 then none else some ⟨transformAddke + r, ⟨sa.method r, []⟩⟩ := by
  unfold packAddke
  split
  · rename_i hone
    obtain ⟨hle, hne, hcase⟩ := hone
    have hfirst : sa.method 0 = sa.addke := (h.methods 0 (by omega)).trans h.addke.symm
    have hrounds : sa.addkeNrounds = 1 := by
      by_contra hzero
      have hbeyond := @methodOf_beyond ts 0 (by rw [← h.nrounds]; omega) (by omega)
      exact hne (h.addke.trans hbeyond)
    rw [hrounds]
    show _ = [0].filterMap _
    rw [List.filterMap_cons, if_neg (hfirst ▸ hne), hfirst]
    rfl
  · rfl

theorem mem_packAddke (h : Recorded sa ts) {s : Selected} : s ∈ packAddke sa
    ↔ ∃ r < sa.addkeNrounds, sa.method r ≠ 0 ∧ s = ⟨transformAddke + r, ⟨sa.method r, []⟩⟩ := by
  rw [packAddke_eq h, List.mem_filterMap]
  constructor
  · rintro ⟨r, hr, heq⟩
    split at heq
    · exact absurd heq (by simp)
    · rename_i hne
      exact ⟨r, List.mem_range.mp hr, hne, (Option.some.inj heq).symm⟩
  · rintro ⟨r, hr, hne, rfl⟩
    exact ⟨r, List.mem_range.mpr hr, by rw [if_neg hne]⟩

/-- the types of the packed transforms ascend -/
theorem packed_types (h : Recorded sa ts) :
    ((packed sa).map Selected.type).Sublist [1, 2, 3, 4, 6, 7, 8, 9, 10, 11, 12] := by
  have haddke : ((packAddke sa).map Selected.type).Sublist [6, 7, 8, 9, 10, 11, 12] := by
    rw [packAddke_eq h]
    have hsub := @filterMap_map_sublist Nat Selected Nat
      (fun r => if sa.method r = 0 then none
        else some ⟨transformAddke + r, ⟨sa.method r, []⟩⟩) Selected.type (transformAddke + ·)
      (by
        intro r s heq
        split at heq
        · exact absurd heq (by simp)
        · rw [← Option.some.inj heq])
      (List.range sa.addkeNrounds)
    have hle : sa.addkeNrounds ≤ 7 := by
      rw [h.nrounds]
      exact highestRound_le_iff.mpr fun s _ => roundOf_le s.type
    have hrange : ((List.range sa.addkeNrounds).map (transformAddke + ·)).Sublist
        [6, 7, 8, 9, 10, 11, 12] := (List.range_sublist.mpr hle).map (transformAddke + ·)
    exact hsub.trans hrange
  unfold packed
  rw [List.map_append, List.map_append, List.map_append, List.map_append]
  have hone : ∀ (c : Prop) [Decidable c] (s : Selected),
      ((if c then [] else [s]).map Selected.type).Sublist [s.type] := by
    intro c _ s
    split
    · exact List.nil_sublist _
    · exact List.Sublist.refl _
  have hdh : ((match sa.dhdef with
      | none => []
      | some id => [(⟨transformDh, ⟨id, []⟩⟩ : Selected)]).map Selected.type).Sublist [4] := by
    split
    · exact List.nil_sublist _
    · exact List.Sublist.refl _
  exact ((((hone _ _).append (hone _ _)).append (hone _ _)).append hdh).append haddke

theorem mem_packed (h : Recorded sa ts) {s : Selected} : s ∈ packed sa
    ↔ (sa.encr ≠ 0 ∧ s = ⟨transformEncr, ⟨sa.encr,
        if sa.encrklen = 0 then [] else [.short attrKeyLength sa.encrklen]⟩⟩)
      ∨ (sa.prf ≠ 0 ∧ s = ⟨transformPrf, ⟨sa.prf, []⟩⟩)
      ∨ (sa.integr ≠ 0 ∧ s = ⟨transformIntegr, ⟨sa.integr, []⟩⟩)
      ∨ (∃ id, sa.dhdef = some id ∧ s = ⟨transformDh, ⟨id, []⟩⟩)
      ∨ ∃ r < sa.addkeNrounds, sa.method r ≠ 0
          ∧ s = ⟨transformAddke + r, ⟨sa.method r, []⟩⟩ := by
  have hone : ∀ (n : Nat) (x : Selected), s ∈ (if n = 0 then [] else [x]) ↔ n ≠ 0 ∧ s = x := by
    intro n x
    split
    · rename_i hzero
      simp [hzero]
    · rename_i hne
      simp [hne]
  have hdh : s ∈ (match sa.dhdef with
      | none => []
      | some id => [(⟨transformDh, ⟨id, []⟩⟩ : Selected)])
        ↔ ∃ id, sa.dhdef = some id ∧ s = ⟨transformDh, ⟨id, []⟩⟩ := by
    cases sa.dhdef with
    | none => simp
    | some id => simp
  unfold packed
  rw [List.mem_append, List.mem_append, List.mem_append, List.mem_append, hone, hone, hone, hdh,
    mem_packAddke h, or_assoc, or_assoc, or_assoc]

theorem methodOf_lt (hids : ∀ s ∈ ts, s.transform.id < 65536) (type : Nat) :
    methodOf ts type < 65536 := by
  by_cases hzero : methodOf ts type = 0
  · omega
  · obtain ⟨s, hs, -, hid⟩ := methodOf_ne_zero hzero
    rw [← hid]
    exact hids s hs

theorem dhinfo_some {id d : Nat} (h : dhinfo groups id = some d) : d = id ∧ id ∈ groups := by
  have heq : d = id := by simpa using List.find?_some h
  exact ⟨heq, heq ▸ List.mem_of_find?_eq_some h⟩

/-- the group of a selected DH transform -/
theorem dhdef_some {number d : Nat} (hfrom : RecordedFrom groups { propNo := number } sa ts)
    (h : sa.dhdef = some d) : ∃ s ∈ ts, s.type = transformDh ∧ s.transform.id = d ∧ d ∈ groups := by
  rw [hfrom.dhdef] at h
  unfold selectedOf at h
  cases hfind : ts.find? (·.type == transformDh) with
  | none =>
    rw [hfind] at h
    exact absurd h (by simp)
  | some s =>
    rw [hfind] at h
    have htype : s.type = transformDh := by simpa using List.find?_some hfind
    obtain ⟨hd, hmem⟩ := dhinfo_some h
    exact ⟨s, List.mem_of_find?_eq_some hfind, htype, hd.symm, hd ▸ hmem⟩

theorem classic_methods {number : Nat} (hfrom : RecordedFrom groups { propNo := number } sa ts) :
    sa.encr = methodOf ts transformEncr ∧ sa.prf = methodOf ts transformPrf
      ∧ sa.integr = methodOf ts transformIntegr :=
  ⟨hfrom.encr, hfrom.prf, hfrom.integr⟩

theorem packed_fits {number : Nat} (hfrom : RecordedFrom groups { propNo := number } sa ts)
    (h : Recorded sa ts) (hids : ∀ s ∈ ts, s.transform.id < 65536)
    (hkeylens : ∀ s ∈ ts, keyLength s.transform.attrs < 65536) :
    ∀ s ∈ packed sa, s.Fits := by
  have hle : sa.addkeNrounds ≤ 7 := by
    rw [h.nrounds]
    exact highestRound_le_iff.mpr fun s _ => roundOf_le s.type
  obtain ⟨hencr, hprf, hinteg⟩ := classic_methods hfrom
  intro s hs
  obtain ⟨-, rfl⟩ | ⟨-, rfl⟩ | ⟨-, rfl⟩ | ⟨d, hd, rfl⟩ | ⟨r, hr, -, rfl⟩ := (mem_packed h).mp hs
  · refine ⟨show transformEncr < 256 by decide, hencr ▸ methodOf_lt hids transformEncr, ?_⟩
    have hklen : sa.encrklen < 65536 := by
      rcases hfrom.encrklen with hzero | ⟨x, hx, hklen⟩
      · rw [hzero]
        show 0 < 65536
        decide
      · rw [hklen]
        exact hkeylens x hx
    show (if sa.encrklen = 0 then [] else [Attr.short attrKeyLength sa.encrklen]) = []
      ∨ ∃ k < 65536, (if sa.encrklen = 0 then [] else [Attr.short attrKeyLength sa.encrklen])
          = [Attr.short attrKeyLength k]
    split
    · exact .inl rfl
    · exact .inr ⟨sa.encrklen, hklen, rfl⟩
  · exact ⟨show transformPrf < 256 by decide, hprf ▸ methodOf_lt hids transformPrf, .inl rfl⟩
  · exact ⟨show transformIntegr < 256 by decide, hinteg ▸ methodOf_lt hids transformIntegr,
      .inl rfl⟩
  · obtain ⟨x, hx, -, hid, -⟩ := dhdef_some hfrom hd
    exact ⟨show transformDh < 256 by decide, hid ▸ hids x hx, .inl rfl⟩
  · refine ⟨?_, ?_, .inl rfl⟩
    · show transformAddke + r < 256
      unfold transformAddke
      omega
    · show sa.method r < 65536
      rw [h.methods r (by omega)]
      exact methodOf_lt hids _

/-- a selected type other than DH is packed if its method is not zero -/
theorem selected_of_method {type : Nat} (htype : type ≠ transformDh) (hne : methodOf ts type ≠ 0) :
    ∃ s ∈ ts, if s.type = transformDh then s.transform.id ∈ groups else s.transform.id ≠ 0 := by
  obtain ⟨s, hs, hst, hid⟩ := methodOf_ne_zero hne
  refine ⟨s, hs, ?_⟩
  rw [if_neg (hst ▸ htype), hid]
  exact hne

theorem method_of_selected {s : Selected} {type : Nat} (hdistinct : (ts.map Selected.type).Nodup)
    (hs : s ∈ ts) (hst : s.type = type) (htype : type ≠ transformDh)
    (hcond : if s.type = transformDh then s.transform.id ∈ groups else s.transform.id ≠ 0) :
    methodOf ts type ≠ 0 := by
  rw [if_neg (hst ▸ htype), ← methodOf_mem hs hdistinct, hst] at hcond
  exact hcond

theorem dhdef_of_selected {number : Nat} {s : Selected}
    (hfrom : RecordedFrom groups { propNo := number } sa ts)
    (hdistinct : (ts.map Selected.type).Nodup) (hs : s ∈ ts) (htype : s.type = transformDh)
    (hmem : s.transform.id ∈ groups) : ∃ d, sa.dhdef = some d := by
  have hsel := selectedOf_mem hs hdistinct
  rw [htype] at hsel
  rw [hfrom.dhdef, hsel]
  show ∃ d, dhinfo groups s.transform.id = some d
  rw [← Option.isSome_iff_exists]
  unfold dhinfo
  rw [List.find?_isSome]
  exact ⟨_, hmem, beq_self_eq_true _⟩

/-- there is a transform to pack -/
theorem packed_ne_nil_iff {number : Nat} (hsa : proppairToIsakmpsa groups number ts = some sa)
    (hdistinct : (ts.map Selected.type).Nodup) : packed sa ≠ []
      ↔ ∃ s ∈ ts, if s.type = transformDh then s.transform.id ∈ groups else s.transform.id ≠ 0 := by
  have hfrom := proppairToIsakmpsa_from hdistinct hsa
  have hrec := (proppairToIsakmpsa_recorded hdistinct hsa).2
  obtain ⟨hencr, hprf, hinteg⟩ := classic_methods hfrom
  have hle : highestRound ts ≤ 7 := highestRound_le_iff.mpr fun s _ => roundOf_le s.type
  have hnotdh : ∀ r, transformAddke + r ≠ transformDh := by
    intro r
    unfold transformAddke transformDh
    omega
  constructor
  · intro hne
    obtain ⟨x, hx⟩ := List.exists_mem_of_ne_nil _ hne
    obtain ⟨h1, -⟩ | ⟨h1, -⟩ | ⟨h1, -⟩ | ⟨d, hd, -⟩ | ⟨r, hr, h1, -⟩ := (mem_packed hrec).mp hx
    · exact selected_of_method (by decide) (hencr ▸ h1)
    · exact selected_of_method (by decide) (hprf ▸ h1)
    · exact selected_of_method (by decide) (hinteg ▸ h1)
    · obtain ⟨s, hs, hst, hid, hmem⟩ := dhdef_some hfrom hd
      refine ⟨s, hs, ?_⟩
      rw [if_pos hst, hid]
      exact hmem
    · apply selected_of_method (hnotdh r)
      rw [hrec.nrounds] at hr
      rw [← hrec.methods r (by omega)]
      exact h1
  · rintro ⟨s, hs, hcond⟩
    rcases record_types ts _ hsa s hs with htype | htype | htype | htype | haddke
    · have hne := method_of_selected hdistinct hs htype (by decide) hcond
      exact List.ne_nil_of_mem ((mem_packed hrec).mpr (.inl ⟨hencr.symm ▸ hne, rfl⟩))
    · have hne := method_of_selected hdistinct hs htype (by decide) hcond
      exact List.ne_nil_of_mem ((mem_packed hrec).mpr (.inr (.inl ⟨hprf.symm ▸ hne, rfl⟩)))
    · have hne := method_of_selected hdistinct hs htype (by decide) hcond
      exact List.ne_nil_of_mem
        ((mem_packed hrec).mpr (.inr (.inr (.inl ⟨hinteg.symm ▸ hne, rfl⟩))))
    · rw [if_pos htype] at hcond
      obtain ⟨d, hd⟩ := dhdef_of_selected hfrom hdistinct hs htype hcond
      exact List.ne_nil_of_mem ((mem_packed hrec).mpr (.inr (.inr (.inr (.inl ⟨d, hd, rfl⟩)))))
    · obtain ⟨r, hr, htype, -⟩ := round_of_addke hdistinct hs haddke
      have hne := method_of_selected hdistinct hs htype (hnotdh r) hcond
      refine List.ne_nil_of_mem ((mem_packed hrec).mpr (.inr (.inr (.inr (.inr
        ⟨r, hrec.nrounds ▸ hr, ?_, rfl⟩)))))
      rw [hrec.methods r (by omega)]
      exact hne

theorem IkeSpi.size_lt (spi : IkeSpi) : spi.octets.length < 256 := by
  rcases spi.size with h | h <;> omega

theorem packed_length (h : Recorded sa ts) : (packed sa).length < 256 := by
  have hlen := (packed_types h).length_le
  rw [List.length_map] at hlen
  exact Nat.lt_of_le_of_lt hlen (by decide)

theorem parsedSa_packed (p : IkeSelection) (spi : IkeSpi)
    (hsa : proppairToIsakmpsa groups p.number p.transforms = some sa) (hne : packed sa ≠ []) :
    parsedSa groups spi.octets.length (ikesaToProposal sa spi.octets) p.number
      = proppairToIsakmpsa groups p.number (packed sa) := by
  have hfrom := proppairToIsakmpsa_from p.distinct hsa
  obtain ⟨hnumber, hrec⟩ := proppairToIsakmpsa_recorded p.distinct hsa
  have hfits := packed_fits hfrom hrec p.ids p.keylens
  have hparse := parseSa_packed hne hfits (hnumber ▸ p.number_octet) spi.size_lt
    (packed_length hrec)
  have hasc : ((packed sa).map Selected.type).Pairwise (· < ·) :=
    List.Pairwise.sublist (packed_types hrec) (by decide)
  unfold parsedSa ikesaToProposal
  rw [hparse]
  simp only [hnumber, if_true]
  rw [heads_groupTransforms hasc fun s hs => (hfits s hs).type]

/-- a proposal without transforms does not pass the syntax check -/
theorem parsedSa_empty (p : IkeSelection) (spi : IkeSpi)
    (hsa : proppairToIsakmpsa groups p.number p.transforms = some sa) (hnil : packed sa = []) :
    parsedSa groups spi.octets.length (ikesaToProposal sa spi.octets) p.number = none := by
  obtain ⟨hnumber, -⟩ := proppairToIsakmpsa_recorded p.distinct hsa
  have hnone : parseSa spi.octets.length (ikesaToProposal sa spi.octets) = none := by
    by_contra hsome
    obtain ⟨ps, hps, hoctets⟩ := (proposals_iff (ikesaToProposal sa spi.octets)).mp
      (Option.isSome_iff_ne_none.mpr hsome)
    cases ps with
    | nil => exact hps.some rfl
    | cons p ps =>
      have hp := hps.each p List.mem_cons_self
      have hread := hp.toWf.read (if ps.isEmpty then 0 else proposalMore) (wireProposals ps)
      rw [← wireProposals_cons, ← hoctets] at hread
      unfold ikesaToProposal at hread
      rw [hnil] at hread
      exact hp.counted hread.count.symm
  unfold parsedSa
  rw [hnone]

theorem methodOf_packed (h : Recorded sa ts) {r : Nat} (hr : r < 7) :
    methodOf (packed sa) (transformAddke + r) = methodOf ts (transformAddke + r) := by
  have hnodup : ((packed sa).map Selected.type).Nodup := (packed_types h).nodup (by decide)
  by_cases hzero : methodOf ts (transformAddke + r) = 0
  · rw [hzero]
    by_contra hne
    obtain ⟨s, hs, htype, hid⟩ := methodOf_ne_zero hne
    have hbig : transformAddke ≤ s.type := by omega
    obtain ⟨-, rfl⟩ | ⟨-, rfl⟩ | ⟨-, rfl⟩ | ⟨d, -, rfl⟩ | ⟨r', -, hne', rfl⟩ := (mem_packed h).mp hs
    · exact absurd hbig (show ¬ transformAddke ≤ transformEncr by decide)
    · exact absurd hbig (show ¬ transformAddke ≤ transformPrf by decide)
    · exact absurd hbig (show ¬ transformAddke ≤ transformIntegr by decide)
    · exact absurd hbig (show ¬ transformAddke ≤ transformDh by decide)
    · have hsame : r' = r := Nat.add_left_cancel htype
      rw [hsame, h.methods r hr] at hne'
      exact hne' hzero
  · have hlt : r < sa.addkeNrounds := by
      by_contra hge
      rw [h.nrounds] at hge
      exact hzero (methodOf_beyond (by omega) hr)
    have hmem : (⟨transformAddke + r, ⟨sa.method r, []⟩⟩ : Selected) ∈ packed sa := by
      refine (mem_packed h).mpr (.inr (.inr (.inr (.inr ⟨r, hlt, ?_, rfl⟩))))
      rw [h.methods r hr]
      exact hzero
    rw [← h.methods r hr]
    exact methodOf_mem hmem hnodup

/-- without gaps the initiator counts the same rounds -/
theorem highestRound_packed (h : Recorded sa ts)
    (hall : ∀ r < highestRound ts, methodOf ts (transformAddke + r) ≠ addkeNone) :
    highestRound (packed sa) = highestRound ts := by
  have hle : highestRound ts ≤ 7 := highestRound_le_iff.mpr fun s _ => roundOf_le s.type
  apply Nat.le_antisymm
  · rw [highestRound_le_iff]
    intro s hs
    obtain ⟨-, rfl⟩ | ⟨-, rfl⟩ | ⟨-, rfl⟩ | ⟨d, -, rfl⟩ | ⟨r, hr, -, rfl⟩ := (mem_packed h).mp hs
    · exact Nat.zero_le _
    · exact Nat.zero_le _
    · exact Nat.zero_le _
    · exact Nat.zero_le _
    · rw [h.nrounds] at hr
      show roundOf (transformAddke + r) ≤ _
      rw [roundOf_addke r (by omega)]
      exact hr
  · by_cases hzero : highestRound ts = 0
    · rw [hzero]
      exact Nat.zero_le _
    · obtain ⟨n, hn⟩ : ∃ n, highestRound ts = n + 1 := ⟨highestRound ts - 1, by omega⟩
      have hne := hall n (by omega)
      rw [← methodOf_packed h (by omega)] at hne
      obtain ⟨s, hs, htype, -⟩ := methodOf_ne_zero hne
      have hround := le_highestRound hs
      rw [htype, roundOf_addke n (by omega)] at hround
      omega

theorem packed_isSome (number : Nat) (h : Recorded sa ts) :
    ∃ sa', proppairToIsakmpsa groups number (packed sa) = some sa' := by
  rw [← Option.isSome_iff_exists]
  apply record_isSome
  have hle : sa.addkeNrounds ≤ 7 := by
    rw [h.nrounds]
    exact highestRound_le_iff.mpr fun s _ => roundOf_le s.type
  intro s hs
  obtain ⟨-, rfl⟩ | ⟨-, rfl⟩ | ⟨-, rfl⟩ | ⟨d, -, rfl⟩ | ⟨r, hr, -, rfl⟩ := (mem_packed h).mp hs
  · exact .inl rfl
  · exact .inr ⟨rfl, .inl rfl⟩
  · exact .inr ⟨rfl, .inr (.inl rfl)⟩
  · exact .inr ⟨rfl, .inr (.inr (.inl rfl))⟩
  · refine .inr ⟨rfl, .inr (.inr (.inr (isAddke_iff.mpr ⟨?_, ?_⟩)))⟩
    · show transformAddke ≤ transformAddke + r
      omega
    · show transformAddke + r ≤ transformAddke + 6
      omega

end

/-- The rounds that the responder records, those the initiator reads from the packed SAr and those
that `ikev2_addke_collect_rounds` yields are one list exactly when the selected ADDKE types have no
gap, no NONE and no repetition. -/
theorem addke_rounds_agree_iff (groups : List Nat) (p : IkeSelection) (spi : IkeSpi)
    (sa : IsakmpSa) (hsa : proppairToIsakmpsa groups p.number p.transforms = some sa) :
    (∃ sa', parsedSa groups spi.octets.length (ikesaToProposal sa spi.octets) p.number = some sa'
      ∧ sa'.roundList = sa.roundList
      ∧ collectRounds [⟨proposalIke, spi.octets, p.transforms⟩] = some sa.roundList)
    ↔ RoundsPlain groups p.transforms := by
  have hrec := (proppairToIsakmpsa_recorded p.distinct hsa).2
  constructor
  · rintro ⟨sa', hparsed, -, hcollect⟩
    obtain ⟨hgapless, hnone, hrepeat⟩ :=
      (rounds_iff p.distinct).mp ((collect_roundList_iff hrec).mp hcollect)
    refine ⟨hgapless, hnone, hrepeat, (packed_ne_nil_iff hsa p.distinct).mp ?_⟩
    intro hnil
    rw [parsedSa_empty p spi hsa hnil] at hparsed
    exact absurd hparsed (by simp)
  · rintro ⟨hgapless, hnone, hrepeat, hsome⟩
    have hplain := (rounds_iff p.distinct).mpr ⟨hgapless, hnone, hrepeat⟩
    have hne := (packed_ne_nil_iff hsa p.distinct).mpr hsome
    obtain ⟨sa', hsa'⟩ := @packed_isSome groups p.transforms sa p.number hrec
    refine ⟨sa', (parsedSa_packed p spi hsa hne).trans hsa', ?_,
      (collect_roundList_iff hrec).mpr hplain⟩
    have hnodup : ((packed sa).map Selected.type).Nodup := (packed_types hrec).nodup (by decide)
    have hrec' := (proppairToIsakmpsa_recorded hnodup hsa').2
    have hle : highestRound p.transforms ≤ 7 :=
      highestRound_le_iff.mpr fun s _ => roundOf_le s.type
    rw [roundList_eq hrec', roundList_eq hrec, highestRound_packed hrec hplain.1]
    apply List.map_congr_left
    intro r hr
    have hlt := List.mem_range.mp hr
    exact methodOf_packed hrec (by omega)

def gcmTransforms (rounds : List Selected) : List Selected :=
  [⟨1, ⟨20, [.short 14 256]⟩⟩, ⟨2, ⟨5, []⟩⟩, ⟨4, ⟨14, []⟩⟩] ++ rounds

/-- ADDKE1 is ML-KEM-1024, and ADDKE2 is NONE -/
def noneRound : IkeSelection where
  number := 1
  transforms := gcmTransforms [⟨6, ⟨37, []⟩⟩, ⟨7, ⟨0, []⟩⟩]
  number_octet := by decide
  distinct := by decide
  ids := by decide
  keylens := by decide

/-- the SA of an initiator or a responder with these rounds -/
def gcmSa (methods : List Nat) (nrounds : Nat) : IsakmpSa where
  propNo := 1
  encr := 20
  encrklen := 256
  prf := 5
  dhdef := some 14
  addke := 37
  addkeMethods := methods
  addkeNrounds := nrounds

/-- the responder records two rounds, the initiator reads one -/
theorem addke_rounds_none :
    ∃ sa sa', proppairToIsakmpsa [14] noneRound.number noneRound.transforms = some sa
      ∧ parsedSa [14] 0 (ikesaToProposal sa []) noneRound.number = some sa'
      ∧ sa.roundList = [37, 0] ∧ sa'.roundList = [37]
      ∧ collectRounds [⟨proposalIke, [], noneRound.transforms⟩] = some [37] :=
  ⟨gcmSa [37, 0, 0, 0, 0, 0, 0, 0] 2, gcmSa [37, 0, 0, 0, 0, 0, 0, 0] 1, by decide,
    by decide +kernel, by decide, by decide, by decide⟩

/-- ADDKE1 and ADDKE2 are ML-KEM-1024 and ML-KEM-768 -/
def twoRounds : IkeSelection where
  number := 1
  transforms := gcmTransforms [⟨6, ⟨37, []⟩⟩, ⟨7, ⟨36, []⟩⟩]
  number_octet := by decide
  distinct := by decide
  ids := by decide
  keylens := by decide

theorem addke_rounds_agree_two :
    ∃ sa, proppairToIsakmpsa [14] twoRounds.number twoRounds.transforms = some sa
      ∧ ∃ sa', parsedSa [14] 0 (ikesaToProposal sa []) twoRounds.number = some sa'
        ∧ sa'.roundList = sa.roundList
        ∧ collectRounds [⟨proposalIke, [], twoRounds.transforms⟩] = some sa.roundList := by
  have hsa : proppairToIsakmpsa [14] twoRounds.number twoRounds.transforms
      = some (gcmSa [37, 36, 0, 0, 0, 0, 0, 0] 2) := by decide
  refine ⟨_, hsa, (addke_rounds_agree_iff [14] twoRounds ⟨[], .inl rfl⟩ _ hsa).mpr ?_⟩
  exact ⟨⟨2, by decide⟩, by decide, by decide, by decide⟩

end Ikev2
