import Racoon2.Iked.Payload
import Racoon2.Iked.TrafficSelector

/-!
# Traffic selector payloads

`ikev2_ts_narrow_to_proposal` on the octets of a payload that `ikev2_check_ts_payload` accepts.

* `TsPayload`, `TsBody`     a payload that passed the check, and one without its payload header;
* `readTs`, `encodeTs`      one selector on the wire;
* `narrowToProposal_eq`     on such payloads, the loops are the narrowing of the lists;
* `narrowed_is_intersection`   what they return is the intersection.
-/

set_option linter.unusedVariables false

namespace Ikev2
open Bytes

/-! ## selectors on the wire -/

/-- sizeof(struct ikev2_traffic_selector) -/
def tsSize : Nat := 8

/-- sizeof(struct ikev2payl_ts_h) -/
def tsHeadSize : Nat := 4

/-- sizeof(struct ikev2payl_traffic_selector) -/
def tsPayloadSize : Nat := 8

/-- the family of a TS type; `ikev2_ts_addr_size` is 0 for all other types -/
def tsFamily (type : UInt8) : Option Family :=
  if type = 7 then some .inet else if type = 8 then some .inet6 else none

def Family.tsType : Family → UInt8
  | .inet => 7
  | .inet6 => 8

theorem le_of_add_two_mul_le {n k size : Nat} (h : n + 2 * k ≤ size) : n + k ≤ size := by
  omega

theorem add_le_of_add_two_mul_le {n k size : Nat} (h : n + 2 * k ≤ size) : n + k + k ≤ size := by
  omega

/-- the selector at an offset -/
def readTs (b : Bytes) (offset : Nat) : Option Ts :=
  match tsFamily (byteAt b offset) with
  | none => none
  | some f =>
    if h : offset + tsSize + 2 * f.size ≤ b.length then
      some {
        family := f
        protocol := (byteAt b (offset + 1)).toNat
        startPort := be16 b (offset + 4)
        endPort := be16 b (offset + 6)
        start := slice b (offset + tsSize) f.size
        stop := slice b (offset + tsSize + f.size) f.size
        start_length := slice_length _ _ _ (le_of_add_two_mul_le h)
        stop_length := slice_length _ _ _ (add_le_of_add_two_mul_le h) }
    else none

def encodeTs (ts : Ts) : Bytes :=
  [ts.family.tsType, UInt8.ofNat ts.protocol] ++ enc16 (tsSize + 2 * ts.family.size)
    ++ enc16 ts.startPort ++ enc16 ts.endPort ++ ts.start ++ ts.stop

/-! ## payloads that passed the check -/

/-- the offsets of `n` selectors from `offset` on, one behind the other by their declared lengths -/
def declaredOffsets (b : Bytes) : Nat → Nat → List Nat
  | 0, offset => []
  | n + 1, offset => offset :: declaredOffsets b n (offset + be16 b (offset + 2))

/-- a TS payload that passed `ikev2_check_ts_payload` -/
structure TsPayload where
  octets : Bytes
  octets_length : octets.length = payloadLength octets
  checked : checkTsPayload octets = true

/-- a TS payload without its payload header, as `ike_conf_find_ikev2sel_by_ts` builds it -/
structure TsBody where
  octets : Bytes
  octets_length : tsHeadSize ≤ octets.length
  checked : checkTsLoop (byteAt octets 0).toNat (octets.drop tsHeadSize) = true

def TsPayload.offsets (p : TsPayload) : List Nat :=
  declaredOffsets p.octets (byteAt p.octets 4).toNat tsPayloadSize

def TsBody.offsets (q : TsBody) : List Nat :=
  declaredOffsets q.octets (byteAt q.octets 0).toNat tsHeadSize

def TsPayload.selectors (p : TsPayload) : List Ts := p.offsets.filterMap (readTs p.octets)

def TsBody.selectors (q : TsBody) : List Ts := q.offsets.filterMap (readTs q.octets)

/-! ## narrowing -/

/-- the selectors written so far -/
structure TsOut where
  n : Nat
  octets : Bytes
  deriving DecidableEq, Repr

def TsOut.add (out : TsOut) (ts : Bytes) : TsOut := ⟨out.n + 1, out.octets ++ ts⟩

/-- `ikev2_ts_intersect` of the selector at `pp` and the one at `qp` -/
def tsIntersectAt (payload : Bytes) (pp : Nat) (selresp : Bytes) (qp : Nat) : Option Bytes :=
  match readTs payload pp, readTs selresp qp with
  | some p, some q => (tsIntersect p q).map encodeTs
  | _, _ => none

section
variable (cap : Nat) (payload selresp : Bytes)

/-- the inner loop of `ikev2_ts_narrow_to_proposal`, for a selector of the family `f` at `pp` -/
def narrowInner (pp : Nat) (f : Family) : Nat → Nat → TsOut → TsOut
  | 0, qp, out => out
  | j + 1, qp, out =>
    if cap ≤ out.n then out
    else if selresp.length - qp < tsSize then out
    else if be16 selresp (qp + 2) < tsSize ∨ selresp.length - qp < be16 selresp (qp + 2) then out
    else
      let found :=
        if byteAt selresp qp = byteAt payload pp ∧ tsSize + 2 * f.size ≤ be16 selresp (qp + 2) then
          tsIntersectAt payload pp selresp qp
        else none
      narrowInner pp f j (qp + be16 selresp (qp + 2)) (found.elim out out.add)

/-- the outer loop of `ikev2_ts_narrow_to_proposal` -/
def narrowOuter : Nat → Nat → TsOut → TsOut
  | 0, pp, out => out
  | i + 1, pp, out =>
    if cap ≤ out.n then out
    else if payload.length - pp < tsSize then out
    else
      match tsFamily (byteAt payload pp) with
      | none => out
      | some f =>
        if be16 payload (pp + 2) < tsSize + 2 * f.size
            ∨ payload.length - pp < be16 payload (pp + 2) then out
        else narrowOuter i (pp + be16 payload (pp + 2))
          (narrowInner cap payload selresp pp f (byteAt selresp 0).toNat tsHeadSize out)

end

inductive NarrowResult where
  | nomem
  | noOverlap
  | narrowed (out : Bytes)
  deriving DecidableEq, Repr

/-- `ikev2_ts_narrow_to_proposal`; `alloc` if there is memory for the result -/
def narrowToProposal (alloc : Bool) (payload selresp : Bytes) : NarrowResult :=
  if selresp.length < tsHeadSize then .noOverlap
  else if payloadLength payload < tsPayloadSize then .noOverlap
  else if !alloc then .nomem
  else
    let cap := min ((byteAt payload 4).toNat * (byteAt selresp 0).toNat) 255
    let out := narrowOuter cap payload selresp (byteAt payload 4).toNat tsPayloadSize ⟨0, []⟩
    if out.n = 0 then .noOverlap else .narrowed ([UInt8.ofNat out.n, 0, 0, 0] ++ out.octets)

/-! ## the check, one selector after the other -/

theorem tsAddrSize_of_family {type : UInt8} {f : Family} (h : tsFamily type = some f) :
    tsAddrSize type = f.size := by
  unfold tsFamily at h
  unfold tsAddrSize
  split at h
  · cases h
    rw [if_pos ‹_›]
    rfl
  · rw [if_neg ‹_›]
    split at h
    · cases h
      rw [if_pos ‹_›]
      rfl
    · cases h

theorem tsAddrSize_of_none {type : UInt8} (h : tsFamily type = none) : tsAddrSize type = 0 := by
  unfold tsFamily at h
  unfold tsAddrSize
  split at h
  · cases h
  · rw [if_neg ‹_›]
    split at h
    · cases h
    · rw [if_neg ‹_›]

theorem Family.size_pos (f : Family) : 0 < f.size := by
  cases f <;> decide

section
variable {b : Bytes} {o : Nat}

theorem checkTsLoop_zero : checkTsLoop 0 (b.drop o) = true ↔ b.length ≤ o := by
  show ((b.drop o).length == 0) = true ↔ _
  rw [beq_iff_eq, List.length_drop]
  omega

/-- what the check finds at an offset -/
theorem checkTsLoop_succ {n : Nat} : checkTsLoop (n + 1) (b.drop o) = true ↔
    ∃ f, tsFamily (byteAt b o) = some f ∧ tsSize + 2 * f.size ≤ be16 b (o + 2)
      ∧ o + be16 b (o + 2) ≤ b.length ∧ checkTsLoop n (b.drop (o + be16 b (o + 2))) = true := by
  rw [checkTsLoop, byteAt_drop, be16_drop, List.drop_drop, List.length_drop, Nat.add_zero]
  unfold tsSize
  cases hf : tsFamily (byteAt b o) with
  | none =>
    rw [tsAddrSize_of_none hf, if_pos rfl]
    constructor
    · intro h
      split at h
      · cases h
      · cases h
    · rintro ⟨f, h, -⟩
      cases h
  | some f =>
    rw [tsAddrSize_of_family hf, if_neg (Nat.ne_of_gt f.size_pos)]
    constructor
    · intro h
      split at h
      · cases h
      split at h
      · cases h
      split at h
      · cases h
      exact ⟨f, rfl, by omega, by omega, h⟩
    · rintro ⟨f', hf', hmin, hin, h⟩
      cases hf'
      rw [if_neg (by omega), if_neg (by omega), if_neg (by omega)]
      exact h

theorem readTs_family {ts : Ts} (h : readTs b o = some ts) :
    tsFamily (byteAt b o) = some ts.family := by
  unfold readTs at h
  split at h
  · cases h
  · split at h
    · cases h
      assumption
    · cases h

theorem readTs_of_family {f : Family} (hf : tsFamily (byteAt b o) = some f)
    (hin : o + tsSize + 2 * f.size ≤ b.length) : ∃ ts, readTs b o = some ts ∧ ts.family = f := by
  unfold readTs
  rw [hf]
  dsimp only
  rw [dif_pos hin]
  exact ⟨_, rfl, rfl⟩

/-- the selectors of a checked payload can all be read -/
theorem declared_selectors_length {n : Nat} (h : checkTsLoop n (b.drop o) = true) :
    ((declaredOffsets b n o).filterMap (readTs b)).length = n := by
  induction n generalizing o with
  | zero => rfl
  | succ n ih =>
    obtain ⟨f, hf, hmin, hin, hrest⟩ := checkTsLoop_succ.mp h
    obtain ⟨ts, hts, -⟩ := readTs_of_family hf (by omega)
    unfold declaredOffsets
    rw [List.filterMap_cons, hts]
    dsimp only
    rw [List.length_cons, ih hrest]

end

/-! ## the loops -/

def TsOut.addAll (out : TsOut) (tss : List Ts) : TsOut :=
  ⟨out.n + tss.length, out.octets ++ tss.flatMap encodeTs⟩

theorem TsOut.addAll_nil (out : TsOut) : out.addAll [] = out := by
  unfold TsOut.addAll
  rw [List.length_nil, List.flatMap_nil, List.append_nil, Nat.add_zero]

theorem TsOut.addAll_cons (out : TsOut) (ts : Ts) (tss : List Ts) :
    out.addAll (ts :: tss) = (out.add (encodeTs ts)).addAll tss := by
  unfold TsOut.addAll TsOut.add
  rw [List.length_cons, List.flatMap_cons, List.append_assoc, Nat.add_assoc, Nat.add_comm 1]

theorem TsOut.addAll_append (out : TsOut) (tss tss' : List Ts) :
    out.addAll (tss ++ tss') = (out.addAll tss).addAll tss' := by
  unfold TsOut.addAll
  rw [List.length_append, List.flatMap_append, List.append_assoc, Nat.add_assoc]

theorem tsFamily_inj {s t : UInt8} {f : Family} (hs : tsFamily s = some f)
    (ht : tsFamily t = some f) : s = t := by
  have htype : ∀ u, tsFamily u = some f → u = f.tsType := by
    intro u hu
    unfold tsFamily at hu
    split at hu
    · cases hu
      assumption
    · split at hu
      · cases hu
        assumption
      · cases hu
  rw [htype s hs, htype t ht]

theorem tsIntersect_family {p q : Ts} (h : p.family ≠ q.family) : tsIntersect p q = none := by
  unfold tsIntersect
  rw [dif_neg h]

section
variable {cap : Nat} {payload selresp : Bytes} {pp : Nat} {p : Ts}

/-- the inner loop adds what the selectors have in common with `p`, up to `cap` -/
theorem narrowInner_eq (hp : readTs payload pp = some p) {j qp : Nat}
    (hq : checkTsLoop j (selresp.drop qp) = true) (out : TsOut) :
    narrowInner cap payload selresp pp p.family j qp out =
      out.addAll ((((declaredOffsets selresp j qp).filterMap (readTs selresp)).filterMap
        (tsIntersect p)).take (cap - out.n)) := by
  induction j generalizing qp out with
  | zero =>
    show out = _
    unfold declaredOffsets
    rw [List.filterMap_nil, List.filterMap_nil, List.take_nil, TsOut.addAll_nil]
  | succ j ih =>
    obtain ⟨f, hf, hmin, hin, hrest⟩ := checkTsLoop_succ.mp hq
    obtain ⟨q, hq', hqf⟩ := readTs_of_family hf (by omega)
    unfold narrowInner declaredOffsets
    by_cases hcap : cap ≤ out.n
    · rw [if_pos hcap, Nat.sub_eq_zero_of_le hcap, List.take_zero, TsOut.addAll_nil]
    rw [if_neg hcap, if_neg (by omega), if_neg (by omega), List.filterMap_cons, hq']
    dsimp only
    rw [ih hrest]
    -- the types differ, or the intersection is asked for
    have hfound : (if byteAt selresp qp = byteAt payload pp
          ∧ tsSize + 2 * p.family.size ≤ be16 selresp (qp + 2) then
        tsIntersectAt payload pp selresp qp else none) = (tsIntersect p q).map encodeTs := by
      by_cases hfam : p.family = q.family
      · have htype := tsFamily_inj (hqf ▸ hf) (hfam ▸ readTs_family hp)
        rw [if_pos ⟨htype, by rw [hfam, hqf]; exact hmin⟩]
        unfold tsIntersectAt
        rw [hp, hq']
      · rw [if_neg, tsIntersect_family hfam, Option.map_none]
        rintro ⟨htype, -⟩
        rw [htype, readTs_family hp] at hf
        exact hfam ((Option.some.inj hf).trans hqf.symm)
    rw [hfound, List.filterMap_cons]
    cases tsIntersect p q with
    | none => rfl
    | some o =>
      show (out.add (encodeTs o)).addAll _ = _
      dsimp only
      rw [show cap - out.n = (cap - (out.n + 1)) + 1 by omega, List.take_succ_cons,
        TsOut.addAll_cons]
      rfl

/-- the outer loop adds the intersections of all pairs, up to `cap` -/
theorem narrowOuter_eq {i : Nat} (hp : checkTsLoop i (payload.drop pp) = true)
    (hq : checkTsLoop (byteAt selresp 0).toNat (selresp.drop tsHeadSize) = true) (out : TsOut) :
    narrowOuter cap payload selresp i pp out =
      out.addAll ((((declaredOffsets payload i pp).filterMap (readTs payload)).flatMap fun p =>
        ((declaredOffsets selresp (byteAt selresp 0).toNat tsHeadSize).filterMap
          (readTs selresp)).filterMap (tsIntersect p)).take (cap - out.n)) := by
  induction i generalizing pp out with
  | zero =>
    show out = _
    unfold declaredOffsets
    rw [List.filterMap_nil, List.flatMap_nil, List.take_nil, TsOut.addAll_nil]
  | succ i ih =>
    obtain ⟨f, hf, hmin, hin, hrest⟩ := checkTsLoop_succ.mp hp
    obtain ⟨p, hp', rfl⟩ := readTs_of_family hf (by omega)
    rw [narrowOuter, declaredOffsets]
    by_cases hcap : cap ≤ out.n
    · rw [if_pos hcap, Nat.sub_eq_zero_of_le hcap, List.take_zero, TsOut.addAll_nil]
    rw [if_neg hcap, if_neg (by omega), hf]
    dsimp only
    rw [if_neg (by omega), narrowInner_eq hp' hq, ih hrest, List.filterMap_cons, hp']
    dsimp only
    rw [List.flatMap_cons, ← TsOut.addAll_append]
    congr 1
    generalize List.filterMap (tsIntersect p) _ = row
    show row.take (cap - out.n) ++ List.take (cap - (out.n + (row.take (cap - out.n)).length)) _ = _
    rw [List.take_append, List.length_take]
    congr 2
    omega

end

/-- a list of selectors, with its head -/
def encodeTss (tss : List Ts) : Bytes := [UInt8.ofNat tss.length, 0, 0, 0] ++ tss.flatMap encodeTs

theorem TsPayload.loop_checked (p : TsPayload) :
    checkTsLoop (byteAt p.octets 4).toNat (p.octets.drop tsPayloadSize) = true
      ∧ tsPayloadSize ≤ payloadLength p.octets := by
  have h := p.checked
  unfold checkTsPayload at h
  split at h
  · cases h
  · rename_i hlen
    refine ⟨?_, Nat.le_of_not_lt hlen⟩
    rw [← p.octets_length] at h
    unfold slice at h
    rw [List.take_of_length_le (by rw [List.length_drop])] at h
    exact h

/-- on checked payloads the loops are the narrowing of the lists -/
theorem narrowToProposal_eq (p : TsPayload) (q : TsBody) :
    narrowToProposal true p.octets q.octets =
      (tsNarrowToProposal p.selectors q.selectors).elim .noOverlap fun tss =>
        .narrowed (encodeTss tss) := by
  obtain ⟨hp, hlen⟩ := p.loop_checked
  have hps : p.selectors.length = (byteAt p.octets 4).toNat := declared_selectors_length hp
  have hqs : q.selectors.length = (byteAt q.octets 0).toNat := declared_selectors_length q.checked
  have hout : narrowOuter (min ((byteAt p.octets 4).toNat * (byteAt q.octets 0).toNat) 255) p.octets
      q.octets (byteAt p.octets 4).toNat tsPayloadSize ⟨0, []⟩ = TsOut.addAll ⟨0, []⟩
      ((p.selectors.flatMap fun t => q.selectors.filterMap (tsIntersect t)).take
        (min (p.selectors.length * q.selectors.length) 255)) := by
    rw [narrowOuter_eq hp q.checked, hps, hqs]
    rfl
  unfold narrowToProposal tsNarrowToProposal
  rw [if_neg (Nat.not_lt_of_le q.octets_length), if_neg (Nat.not_lt_of_le hlen), if_neg (by decide)]
  dsimp only
  rw [hout]
  generalize List.take _ _ = tss
  cases tss with
  | nil => rfl
  | cons t tss =>
    have hn : (TsOut.addAll ⟨0, []⟩ (t :: tss)).n = (t :: tss).length := Nat.zero_add _
    rw [if_neg (by rw [hn, List.length_cons]; omega), hn]
    rfl

/-! ## what is written can be read -/

/-- the fields of a selector on the wire -/
structure Ts.Fits (ts : Ts) : Prop where
  protocol : ts.protocol < 256
  startPort : ts.startPort < 65536
  endPort : ts.endPort < 65536

theorem readTs_fits {b : Bytes} {o : Nat} {ts : Ts} (h : readTs b o = some ts) : ts.Fits := by
  unfold readTs at h
  split at h
  · cases h
  · split at h
    · cases h
      exact ⟨(byteAt b (o + 1)).toNat_lt, be16_lt _ _, be16_lt _ _⟩
    · cases h

theorem tsIntersect_fits {p q o : Ts} (hp : p.Fits) (hq : q.Fits) (h : tsIntersect p q = some o) :
    o.Fits := by
  rcases tsIntersect_cases p q with ⟨o', ho, -, -, -, hproto, hsp, hep, -, -⟩ | ⟨hnone, -⟩
  · cases ho.symm.trans h
    refine ⟨?_, ?_, ?_⟩
    · rw [hproto]
      split
      · exact hq.protocol
      · exact hp.protocol
    · rw [hsp]
      exact Nat.max_lt.mpr ⟨hp.startPort, hq.startPort⟩
    · rw [hep]
      exact Nat.lt_of_le_of_lt (Nat.min_le_left _ _) hp.endPort
  · cases hnone.symm.trans h

theorem tsFamily_tsType (f : Family) : tsFamily f.tsType = some f := by
  cases f <;> rfl

theorem encodeTs_length (ts : Ts) : (encodeTs ts).length = tsSize + 2 * ts.family.size := by
  have h1 := ts.start_length
  have h2 := ts.stop_length
  unfold encodeTs tsSize
  rw [List.length_append, List.length_append]
  show 8 + ts.start.length + ts.stop.length = _
  omega

section
variable {ts : Ts} (pre post : Bytes)

theorem be16_encodeTs_length (ts : Ts) :
    be16 (pre ++ (encodeTs ts ++ post)) (pre.length + 2) = tsSize + 2 * ts.family.size := by
  rw [be16_append_right]
  exact octets_value (by cases ts.family <;> decide)

theorem readTs_encodeTs (h : ts.Fits) :
    readTs (pre ++ (encodeTs ts ++ post)) pre.length = some ts := by
  have htype : byteAt (pre ++ (encodeTs ts ++ post)) pre.length = ts.family.tsType :=
    byteAt_append_right pre _ 0
  have hproto : (byteAt (pre ++ (encodeTs ts ++ post)) (pre.length + 1)).toNat = ts.protocol := by
    rw [byteAt_append_right]
    exact octet_value h.protocol
  have hsp : be16 (pre ++ (encodeTs ts ++ post)) (pre.length + 4) = ts.startPort := by
    rw [be16_append_right]
    exact octets_value h.startPort
  have hep : be16 (pre ++ (encodeTs ts ++ post)) (pre.length + 6) = ts.endPort := by
    rw [be16_append_right]
    exact octets_value h.endPort
  have hstart : slice (pre ++ (encodeTs ts ++ post)) (pre.length + tsSize) ts.family.size =
      ts.start := by
    rw [slice_append_right]
    show slice (ts.start ++ ts.stop ++ post) 0 ts.family.size = ts.start
    rw [List.append_assoc]
    exact slice_zero_append _ _ _ ts.start_length
  have hstop : slice (pre ++ (encodeTs ts ++ post)) (pre.length + tsSize + ts.family.size)
      ts.family.size = ts.stop := by
    rw [Nat.add_assoc, slice_append_right]
    have hsplit : encodeTs ts ++ post = (encodeTs ts).take tsSize ++ ts.start ++ (ts.stop ++ post) := by
      rw [← List.append_assoc]
      rfl
    have hlen : ((encodeTs ts).take tsSize ++ ts.start).length = tsSize + ts.family.size := by
      rw [List.length_append, ts.start_length]
      rfl
    rw [hsplit, ← hlen]
    exact (slice_append_right _ _ 0 _).trans (slice_zero_append _ _ _ ts.stop_length)
  have hin : pre.length + tsSize + 2 * ts.family.size ≤ (pre ++ (encodeTs ts ++ post)).length := by
    rw [List.length_append, List.length_append, encodeTs_length]
    omega
  obtain ⟨family, protocol, startPort, endPort, start, stop, _, _⟩ := ts
  unfold readTs
  rw [htype, tsFamily_tsType]
  dsimp only at hproto hsp hep hstart hstop hin ⊢
  rw [dif_pos hin]
  simp only [Option.some.injEq, Ts.mk.injEq]
  exact ⟨trivial, hproto, hsp, hep, hstart, hstop⟩

end

/-- the selectors that `encodeTss` wrote, whatever stands before them -/
theorem declared_encoded (tss : List Ts) (h : ∀ t ∈ tss, t.Fits) (pre : Bytes) :
    (declaredOffsets (pre ++ tss.flatMap encodeTs) tss.length pre.length).filterMap
      (readTs (pre ++ tss.flatMap encodeTs)) = tss := by
  induction tss generalizing pre with
  | nil => rfl
  | cons t tss ih =>
    obtain ⟨ht, hrest⟩ := List.forall_mem_cons.mp h
    have hnext : pre.length + (tsSize + 2 * t.family.size) = (pre ++ encodeTs t).length := by
      rw [List.length_append, encodeTs_length]
    rw [List.length_cons, declaredOffsets, List.flatMap_cons, List.filterMap_cons,
      readTs_encodeTs pre _ ht, be16_encodeTs_length, hnext, ← List.append_assoc]
    dsimp only
    rw [ih hrest]

theorem checkTsLoop_encoded (tss : List Ts) (pre : Bytes) :
    checkTsLoop tss.length ((pre ++ tss.flatMap encodeTs).drop pre.length) = true := by
  induction tss generalizing pre with
  | nil =>
    rw [List.length_nil, checkTsLoop_zero, List.flatMap_nil, List.append_nil]
  | cons t tss ih =>
    have hnext : pre.length + (tsSize + 2 * t.family.size) = (pre ++ encodeTs t).length := by
      rw [List.length_append, encodeTs_length]
    rw [List.length_cons, List.flatMap_cons, checkTsLoop_succ, be16_encodeTs_length, hnext,
      ← List.append_assoc]
    refine ⟨t.family, ?_, Nat.le_refl _, ?_, ih (pre ++ encodeTs t)⟩
    · rw [List.append_assoc]
      exact (congrArg tsFamily (byteAt_append_right pre _ 0)).trans (tsFamily_tsType _)
    · have hsum : (pre ++ encodeTs t ++ tss.flatMap encodeTs).length =
          (pre ++ encodeTs t).length + (tss.flatMap encodeTs).length := List.length_append
      rw [hsum]
      exact Nat.le_add_right _ _

/-- a written list is a payload again, with the same selectors -/
def TsBody.ofList (tss : List Ts) (h : tss.length < 256) : TsBody where
  octets := encodeTss tss
  octets_length := Nat.le_add_left _ _
  checked := by
    have hn : (byteAt (encodeTss tss) 0).toNat = tss.length := octet_value h
    rw [hn]
    exact checkTsLoop_encoded tss [UInt8.ofNat tss.length, 0, 0, 0]

theorem TsBody.ofList_selectors {tss : List Ts} (h : tss.length < 256) (hfit : ∀ t ∈ tss, t.Fits) :
    (TsBody.ofList tss h).selectors = tss := by
  have hn : (byteAt (encodeTss tss) 0).toNat = tss.length := octet_value h
  unfold TsBody.selectors TsBody.offsets
  show (declaredOffsets (encodeTss tss) (byteAt (encodeTss tss) 0).toNat _).filterMap _ = _
  rw [hn]
  exact declared_encoded tss hfit [UInt8.ofNat tss.length, 0, 0, 0]

/-! ## sets of packets -/

/-- the (address, protocol, port) tuples of a list of selectors -/
def tuples (tss : List Ts) : Set Packet := { packet | ∃ t ∈ tss, t.Covers packet }

def Overlap (p q : Ts) : Prop := ∃ packet, p.Covers packet ∧ q.Covers packet

/-- the intersection that is returned is not empty -/
theorem tsIntersect_nonempty {p q o : Ts} (h : tsIntersect p q = some o) :
    o.startPort ≤ o.endPort ∧ value o.start ≤ value o.stop := by
  unfold tsIntersect at h
  split at h
  · split at h
    · cases h
    split at h
    · cases h
    next hport =>
    dsimp only at h
    by_cases hle : memLe (if memLe q.start p.start then p.start else q.start)
        (if memLe p.stop q.stop then p.stop else q.stop) = true
    · rw [if_neg (by rw [hle]; decide)] at h
      obtain rfl := Option.some.inj h
      refine ⟨Nat.le_of_not_lt hport, ?_⟩
      exact (memLe_iff _ _ ((Ts.start_length _).trans (Ts.stop_length _).symm)).mp hle
    · rw [if_pos (by rw [Bool.not_eq_true] at hle; rw [hle]; rfl)] at h
      cases h
  · cases h

theorem tsIntersect_isSome_iff {p q : Ts} : (tsIntersect p q).isSome = true ↔ Overlap p q := by
  constructor
  · intro h
    obtain ⟨o, ho⟩ := Option.isSome_iff_exists.mp h
    obtain ⟨hports, haddrs⟩ := tsIntersect_nonempty ho
    -- the first address and the first port, in the protocol of the selector
    have hcovers : o.Covers ⟨o.family, value o.start, o.protocol, o.startPort⟩ :=
      ⟨rfl, Nat.le_refl _, haddrs, .inr rfl, Nat.le_refl _, hports⟩
    exact ⟨_, (tsIntersect_covers ho _).mp hcovers⟩
  · rintro ⟨packet, hp, hq⟩
    rcases tsIntersect_cases p q with ⟨o, ho, -⟩ | ⟨-, hnot⟩
    · rw [ho]
      rfl
    · obtain ⟨hpf, hp1, hp2, hpp, hp3, hp4⟩ := hp
      obtain ⟨hqf, hq1, hq2, hqp, hq3, hq4⟩ := hq
      refine absurd ⟨hpf.trans hqf.symm, ?_, by omega, by omega⟩ hnot
      unfold ProtoMeet
      omega

instance (p q : Ts) : Decidable (Overlap p q) := decidable_of_iff _ tsIntersect_isSome_iff

/-- the number of pairs that overlap -/
def overlappingPairs (ps qs : List Ts) : Nat :=
  (ps.flatMap fun p => qs.filter fun q => decide (Overlap p q)).length

theorem overlappingPairs_eq (ps qs : List Ts) :
    overlappingPairs ps qs = (ps.flatMap fun p => qs.filterMap (tsIntersect p)).length := by
  have hrow : ∀ p, (qs.filter fun q => decide (Overlap p q)).length =
      (qs.filterMap (tsIntersect p)).length := by
    intro p
    rw [List.length_filterMap_eq_countP, List.countP_eq_length_filter]
    congr 2
    funext q
    rw [← Bool.coe_iff_coe, decide_eq_true_iff]
    exact tsIntersect_isSome_iff.symm
  unfold overlappingPairs
  rw [List.length_flatMap, List.length_flatMap]
  congr 2
  funext p
  exact hrow p

/-- with at most 255 pairs, nothing is cut off -/
theorem tsNarrowToProposal_eq {ps qs : List Ts} (h : overlappingPairs ps qs ≤ 255) :
    tsNarrowToProposal ps qs =
      if ps.flatMap (fun p => qs.filterMap (tsIntersect p)) = [] then none
      else some (ps.flatMap fun p => qs.filterMap (tsIntersect p)) := by
  have hpairs : (ps.map fun p => (qs.filterMap (tsIntersect p)).length).sum ≤
      ps.length * qs.length := by
    have hrows := List.sum_le_card_nsmul (ps.map fun p => (qs.filterMap (tsIntersect p)).length)
      qs.length (List.forall_mem_map.mpr fun p _ => List.length_filterMap_le _ _)
    rw [List.length_map, smul_eq_mul] at hrows
    exact hrows
  have hlen : (ps.flatMap fun p => qs.filterMap (tsIntersect p)).length ≤
      min (ps.length * qs.length) 255 := by
    refine Nat.le_min.mpr ⟨?_, overlappingPairs_eq ps qs ▸ h⟩
    rw [List.length_flatMap]
    exact hpairs
  unfold tsNarrowToProposal
  rw [List.take_of_length_le hlen]
  cases ps.flatMap (fun p => qs.filterMap (tsIntersect p)) with
  | nil => rfl
  | cons t tss => rfl

theorem mem_tuples_pairs {ps qs : List Ts} {packet : Packet} :
    packet ∈ tuples (ps.flatMap fun p => qs.filterMap (tsIntersect p)) ↔
      packet ∈ tuples ps ∩ tuples qs := by
  constructor
  · rintro ⟨t, ht, hcovers⟩
    obtain ⟨p, hp, ht⟩ := List.mem_flatMap.mp ht
    obtain ⟨q, hq, hpq⟩ := List.mem_filterMap.mp ht
    obtain ⟨hpc, hqc⟩ := (tsIntersect_covers hpq packet).mp hcovers
    exact ⟨⟨p, hp, hpc⟩, ⟨q, hq, hqc⟩⟩
  · rintro ⟨⟨p, hp, hpc⟩, ⟨q, hq, hqc⟩⟩
    obtain ⟨t, ht⟩ := Option.isSome_iff_exists.mp (tsIntersect_isSome_iff.mpr ⟨packet, hpc, hqc⟩)
    exact ⟨t, List.mem_flatMap.mpr ⟨p, hp, List.mem_filterMap.mpr ⟨q, hq, ht⟩⟩,
      (tsIntersect_covers ht packet).mpr ⟨hpc, hqc⟩⟩

/-- the pairs that were found are all there is in common -/
theorem pairs_eq_nil_iff {ps qs : List Ts} :
    ps.flatMap (fun p => qs.filterMap (tsIntersect p)) = [] ↔ tuples ps ∩ tuples qs = ∅ := by
  constructor
  · intro h
    refine Set.eq_empty_iff_forall_notMem.mpr fun packet hin => ?_
    obtain ⟨t, ht, -⟩ := mem_tuples_pairs.mpr hin
    rw [h] at ht
    exact List.not_mem_nil ht
  · intro h
    refine List.eq_nil_iff_forall_not_mem.mpr fun t ht => ?_
    obtain ⟨p, hp, ht'⟩ := List.mem_flatMap.mp ht
    obtain ⟨q, hq, hpq⟩ := List.mem_filterMap.mp ht'
    obtain ⟨packet, hpc, hqc⟩ := tsIntersect_isSome_iff.mp (Option.isSome_iff_exists.mpr ⟨t, hpq⟩)
    exact Set.eq_empty_iff_forall_notMem.mp h packet ⟨⟨p, hp, hpc⟩, ⟨q, hq, hqc⟩⟩

/-- every packet of `t` is one of `p` -/
def Within (t p : Ts) : Prop := ∀ packet, t.Covers packet → p.Covers packet

/-- what `ikev2_ts_narrow_to_proposal` says of two payloads -/
structure Narrowing (alloc : Bool) (p : TsPayload) (q : TsBody) (result : NarrowResult) : Prop where
  nomem : result = .nomem ↔ alloc = false
  /-- it reports no overlap exactly when there is none -/
  noOverlap : alloc = true →
    (result = .noOverlap ↔ tuples p.selectors ∩ tuples q.selectors = ∅)
  /-- what it returns is a payload again: the intersection, each part of it within one selector of
  each side -/
  narrowed : ∀ out, result = .narrowed out → ∃ r : TsBody, r.octets = out
    ∧ tuples r.selectors = tuples p.selectors ∩ tuples q.selectors
    ∧ ∀ t ∈ r.selectors, (∃ a ∈ p.selectors, Within t a) ∧ ∃ b ∈ q.selectors, Within t b

theorem narrowToProposal_nomem (p : TsPayload) (q : TsBody) :
    narrowToProposal false p.octets q.octets = .nomem := by
  unfold narrowToProposal
  rw [if_neg (Nat.not_lt_of_le q.octets_length), if_neg (Nat.not_lt_of_le p.loop_checked.2)]
  rfl

/-- when the number of overlapping pairs fits its octet, what is returned is the intersection -/
theorem narrowed_is_intersection (alloc : Bool) (p : TsPayload) (q : TsBody)
    (h : overlappingPairs p.selectors q.selectors ≤ 255) :
    Narrowing alloc p q (narrowToProposal alloc p.octets q.octets) := by
  obtain rfl | rfl := (Bool.eq_false_or_eq_true alloc).symm
  · rw [narrowToProposal_nomem]
    refine ⟨⟨fun _ => rfl, fun _ => rfl⟩, fun halloc => ?_, fun out hout => ?_⟩
    · cases halloc
    · cases hout
  have hpair : ∀ t ∈ p.selectors.flatMap fun a => q.selectors.filterMap (tsIntersect a),
      ∃ a ∈ p.selectors, ∃ b ∈ q.selectors, tsIntersect a b = some t := by
    intro t ht
    obtain ⟨a, ha, ht⟩ := List.mem_flatMap.mp ht
    obtain ⟨b, hb, hab⟩ := List.mem_filterMap.mp ht
    exact ⟨a, ha, b, hb, hab⟩
  have hfits : ∀ t ∈ p.selectors.flatMap fun a => q.selectors.filterMap (tsIntersect a), t.Fits := by
    intro t ht
    obtain ⟨a, ha, b, hb, hab⟩ := hpair t ht
    obtain ⟨_, -, ha'⟩ := List.mem_filterMap.mp ha
    obtain ⟨_, -, hb'⟩ := List.mem_filterMap.mp hb
    exact tsIntersect_fits (readTs_fits ha') (readTs_fits hb') hab
  rw [narrowToProposal_eq, tsNarrowToProposal_eq h]
  by_cases hnil : p.selectors.flatMap (fun a => q.selectors.filterMap (tsIntersect a)) = []
  · rw [if_pos hnil]
    refine ⟨⟨fun hout => ?_, fun halloc => ?_⟩, fun _ => ⟨fun _ => pairs_eq_nil_iff.mp hnil,
      fun _ => rfl⟩, fun out hout => ?_⟩
    · cases hout
    · cases halloc
    · cases hout
  · rw [if_neg hnil]
    have hlen : (p.selectors.flatMap fun a => q.selectors.filterMap (tsIntersect a)).length < 256 :=
      Nat.lt_succ_of_le (overlappingPairs_eq _ _ ▸ h)
    refine ⟨⟨fun hout => ?_, fun halloc => ?_⟩, fun _ => ⟨fun hout => ?_, fun hempty =>
      absurd (pairs_eq_nil_iff.mpr hempty) hnil⟩, fun out hout => ?_⟩
    · cases hout
    · cases halloc
    · cases hout
    · cases hout
      refine ⟨TsBody.ofList _ hlen, rfl, ?_, ?_⟩
      · rw [TsBody.ofList_selectors hlen hfits]
        exact Set.ext fun packet => mem_tuples_pairs
      · rw [TsBody.ofList_selectors hlen hfits]
        intro t ht
        obtain ⟨a, ha, b, hb, hab⟩ := hpair t ht
        exact ⟨⟨a, ha, fun packet hc => ((tsIntersect_covers hab packet).mp hc).1⟩,
          ⟨b, hb, fun packet hc => ((tsIntersect_covers hab packet).mp hc).2⟩⟩

/-- all of IPv4, in any protocol, and a selector of IPv6 -/
def anyProposal : TsPayload where
  octets := [0, 0, 0, 64, 2, 0, 0, 0,
    7, 0, 0, 16, 0, 0, 255, 255, 0, 0, 0, 0, 255, 255, 255, 255,
    8, 6, 0, 40, 0, 80, 0, 80, 0, 0, 0, 0, 0, 0, 0, 0, 0, 0, 0, 0, 0, 0, 0, 1,
    0, 0, 0, 0, 0, 0, 0, 0, 0, 0, 0, 0, 0, 0, 0, 1]
  octets_length := by decide
  checked := by decide

/-- 10.0.0.0/24, port 80 of TCP -/
def webServers : TsBody where
  octets := [1, 0, 0, 0, 7, 6, 0, 16, 0, 80, 0, 80, 10, 0, 0, 0, 10, 0, 0, 255]
  octets_length := by decide
  checked := by decide

theorem narrowed_is_intersection_web :
    overlappingPairs anyProposal.selectors webServers.selectors ≤ 255 ∧
    Narrowing true anyProposal webServers
      (narrowToProposal true anyProposal.octets webServers.octets) :=
  ⟨by decide, narrowed_is_intersection true anyProposal webServers (by decide)⟩

end Ikev2
